import GuestNet.Proofs.Connection.Streams
import GuestNet.Proofs.Driver.Registration
import GuestNet.Proofs.Overlap.Shifts

/-! Opens that overlap. A backend may take long, and whether there is room is asked before it is
asked for a connection and again when it has made one; so an open can come too late. Whatever the
order, every entry of the table is the one of the open that returned its handle. -/
namespace GuestNet

namespace Overlap
namespace Machine

variable {W C : Type} {m m' : Machine W C} {id : CallId} {s' : Stage W C}
  {before : Option (Stage W C)} {es : List Event} {trace : List (Mark C)} {bound : Nat}

/-- What became of the connections that were made, as far as the marks tell of it. -/
structure Openings (bound : Nat) (trace : List (Mark C)) (m : Machine W C) : Prop where
  bounded : m.table.Bounded bound
  made_of_connected : ∀ {k : CallId} {o : C}, m.calls[k]? = some (.connected o) →
    .made k o ∈ trace
  of_made : ∀ {k : CallId} {o : C}, .made k o ∈ trace →
    m.calls[k]? = some (.connected o) ∨ ∃ c r, .placed k c o r ∈ trace
  made_of_placed : ∀ {k : CallId} {c : CellId} {o : C} {r : Except DriverError Handle},
    .placed k c o r ∈ trace → .made k o ∈ trace
  placed_lt : ∀ {k : CallId} {c : CellId} {o : C} {r : Except DriverError Handle},
    .placed k c o r ∈ trace → c < m.cells.size
  /-- A call puts one connection in one cell. -/
  placed_unique : ∀ {j k : CallId} {c d : CellId} {o p : C} {r t : Except DriverError Handle},
    .placed j c o r ∈ trace → .placed k d p t ∈ trace → j = k ∨ c = d →
      j = k ∧ c = d ∧ o = p ∧ r = t
  finished_of_placed : ∀ {k : CallId} {c : CellId} {o : C} {r : Except DriverError Handle},
    .placed k c o r ∈ trace → m.calls[k]? = some (.finished (r.map .handle))
  error_of_placed : ∀ {k : CallId} {c : CellId} {o : C} {e : DriverError},
    .placed k c o (.error e) ∈ trace → e = .tooManyHandles bound
  placed_of_get? : ∀ {h : Handle} {c : CellId}, m.table.get? h = some c →
    ∃ k o, .placed k c o (.ok h) ∈ trace
  placed_of_handle : ∀ {k : CallId} {h : Handle},
    m.calls[k]? = some (.finished (.ok (.handle h))) → ∃ c o, .placed k c o (.ok h) ∈ trace

theorem openings_new (config : Config) (backends : List (Backend W C)) (world : W) :
    Openings (min config.maxHandles Handle.greatest.toNat) [] (new config backends world) where
  bounded := HandleTable.bounded_new config.maxHandles
  made_of_connected hk := by simp [new] at hk
  of_made hm := by cases hm
  made_of_placed hp := by cases hp
  placed_lt hp := by cases hp
  placed_unique hp := by cases hp
  finished_of_placed hp := by cases hp
  error_of_placed hp := by cases hp
  placed_of_get? hg := by simp [new] at hg
  placed_of_handle hk := by simp [new] at hk

theorem Move.connected_of_issued (hm : Move m m' before s' es) {c : CellId} {h : Handle}
    (he : .issued c h ∈ es) : ∃ o, before.bind Stage.connection? = some o := by
  cases hm with
  | issued => exact ⟨_, rfl⟩
  | idle _ _ _ _ _ _ ho =>
    obtain ⟨_, _, he⟩ := ho _ he
    cases he
  | begun | looked | drained | refused | took | tookNext => cases he
  | released | abandoned | closed => simp at he

theorem connection?_of_connected {s : Option (Stage W C)} {o : C} :
    s.bind Stage.connection? = some o ↔ s = some (.connected o) := by
  rcases s with _ | s
  · simp
  · cases s <;> simp [Stage.connection?]

theorem Openings.made_of_connected_shift (ho : Openings bound trace m) (ht : Turn m m' id s')
    {k : CallId} {o : C} (hk : m'.calls[k]? = some (.connected o)) :
    .made k o ∈ trace ++ Stage.told id m.cells.size m.calls[id]? s' := by
  rcases ht.elim hk with ⟨rfl, rfl⟩ | ⟨-, hk⟩
  · exact List.mem_append_right trace (Stage.made_mem_told.mpr ⟨rfl, rfl⟩)
  · exact List.mem_append_left _ (ho.made_of_connected hk)

/-- The connection in a cell is bound under no other handle than the one that its open got. -/
theorem Openings.of_get? (ho : Openings bound trace m) {k : CallId} {c : CellId} {o : C}
    {r : Except DriverError Handle} {h : Handle} (hp : .placed k c o r ∈ trace)
    (hg : m.table.get? h = some c) : r = .ok h := by
  obtain ⟨j, p, hq⟩ := ho.placed_of_get? hg
  exact (ho.placed_unique hp hq (.inr rfl)).2.2.2

/-- A call that puts a connection in a cell has not done so before, and the cell is new. -/
theorem Openings.ne_of_told (ho : Openings bound trace m) {j k : CallId} {c d : CellId} {o p : C}
    {r t : Except DriverError Handle} (hp : .placed j c o r ∈ trace)
    (hq : .placed k d p t ∈ Stage.told id m.cells.size m.calls[id]? s') : j ≠ k ∧ c ≠ d := by
  obtain ⟨rfl, rfl, hb, -⟩ := Stage.placed_mem_told.mp hq
  refine ⟨fun he => ?_, (ho.placed_lt hp).ne⟩
  subst he
  cases (ho.finished_of_placed hp).symm.trans (connection?_of_connected.mp hb)

theorem Openings.placed_unique_shift (ho : Openings bound trace m) {j k : CallId}
    {c d : CellId} {o p : C} {r t : Except DriverError Handle}
    (hp : .placed j c o r ∈ trace ++ Stage.told id m.cells.size m.calls[id]? s')
    (hq : .placed k d p t ∈ trace ++ Stage.told id m.cells.size m.calls[id]? s')
    (he : j = k ∨ c = d) : j = k ∧ c = d ∧ o = p ∧ r = t := by
  rcases List.mem_append.mp hp with hp | hp <;> rcases List.mem_append.mp hq with hq | hq
  · exact ho.placed_unique hp hq he
  · exact absurd he (not_or.mpr (ho.ne_of_told hp hq))
  · exact absurd he (not_or.mpr ((ho.ne_of_told hq hp).imp Ne.symm Ne.symm))
  · obtain ⟨rfl, rfl, hb, hr⟩ := Stage.placed_mem_told.mp hp
    obtain ⟨rfl, rfl, hb', hr'⟩ := Stage.placed_mem_told.mp hq
    exact ⟨rfl, rfl, Option.some.inj (hb.symm.trans hb'), Option.some.inj (hr.symm.trans hr')⟩

variable [Connection C]

namespace Shift

/-- A connection that was made gets a cell at the next step of its call. -/
theorem of_connection (hs : Shift m m' id before s') {o : C}
    (hb : before.bind Stage.connection? = some o) :
    m'.cells.size = m.cells.size + 1 ∧
      ((m.table.isFull = false ∧ m'.table = m.table.issue m.cells.size ∧
          s' = .finished (.ok (.handle m.table.free))) ∨
        (m.table.isFull = true ∧ m'.table = m.table ∧
          s' = .finished (.error (.tooManyHandles m.table.capacity)))) := by
  cases hs with
  | issued hf ht hc => exact ⟨by rw [hc, Array.size_push], .inl ⟨hf, ht, rfl⟩⟩
  | refused hf ht hc => exact ⟨by rw [hc, Array.size_push], .inr ⟨hf, ht, rfl⟩⟩
  | away _ _ hn => cases hn.symm.trans hb
  | connected | queued | begun | declined | took | tookNext | released | abandoned | performed
  | closed => cases hb

/-- The connections are those that backends make for calls that ask them for one. -/
theorem of_connected (hs : Shift m m' id before s') {o : C} (ho : s'.connection? = some o) :
    ∃ t options b, before = some (.connecting t options b) ∧
      (b.connect t options m.setup.config m.world).1 = .ok o := by
  cases hs with
  | connected _ hc =>
    cases ho
    exact ⟨_, _, _, rfl, hc⟩
  | away _ _ _ _ hn => cases hn.symm.trans ho
  | declined | closed => simp at ho
  | issued | refused | queued | begun | took | tookNext | released | abandoned | performed =>
    cases ho

theorem finished (hs : Shift m m' id before s') {o : Outcome} (hb : before = some (.finished o)) :
    s' = .finished o := by
  cases hs with
  | away _ _ _ _ _ _ ho => exact ho o hb
  | connected | issued | refused | queued | begun | declined | took | tookNext | released
  | abandoned | performed | closed => cases hb

/-- Only a call that has had a connection made comes back with a handle. -/
theorem of_handle (hs : Shift m m' id before s') {h : Handle}
    (ho : s' = .finished (.ok (.handle h))) :
    ∃ o, before.bind Stage.connection? = some o := by
  have hopened : s'.opened? = some (.ok h) := by
    rw [ho]
    rfl
  cases hs with
  | issued => exact ⟨_, rfl⟩
  | away _ _ _ _ _ hn => exact absurd hopened (hn h)
  | @performed _ op =>
    have hg := Slot.gives_of_perform (Stage.finished.inj ho)
    cases op <;> cases hg
  | @declined _ task =>
    cases task with
    | perform => cases ho
    | close => cases ho
    | closeEach rest => exact absurd hopened (Stage.opened?_closeNext rest h)
  | @closed _ rest => exact absurd hopened (Stage.opened?_closeNext rest h)
  | connected | refused | queued | begun | took | tookNext | released | abandoned => cases ho

/-- What is told of a connection that gets a cell is what its call comes back with. -/
theorem of_placed (hs : Shift m m' id before s') {k : CallId} {c : CellId} {o : C}
    {r : Except DriverError Handle}
    (hp : .placed k c o r ∈ Stage.told id m.cells.size before s') :
    k = id ∧ c = m.cells.size ∧ before.bind Stage.connection? = some o ∧
      s' = .finished (r.map .handle) ∧ m'.cells.size = m.cells.size + 1 ∧
      ((m.table.isFull = false ∧ r = .ok m.table.free ∧ m'.table = m.table.issue c) ∨
        (m.table.isFull = true ∧ r = .error (.tooManyHandles m.table.capacity) ∧
          m'.table = m.table)) := by
  obtain ⟨hk, hc, hb, hr⟩ := Stage.placed_mem_told.mp hp
  obtain ⟨hn, ⟨hf, ht, he⟩ | ⟨hf, ht, he⟩⟩ := hs.of_connection hb
  · subst he hc
    cases hr
    exact ⟨hk, rfl, hb, rfl, hn, .inl ⟨hf, rfl, ht⟩⟩
  · subst he hc
    cases hr
    exact ⟨hk, rfl, hb, rfl, hn, .inr ⟨hf, rfl, ht⟩⟩

/-- A new connection goes into a cell of its own, where calls can reach it if there is a handle
for it. -/
theorem cells_of_placed (hs : Shift m m' id before s') {k : CallId} {c : CellId} {o : C}
    {r : Except DriverError Handle}
    (hp : .placed k c o r ∈ Stage.told id m.cells.size before s') : ∃ p,
      m'.cells = m.cells.push ⟨.ofConnection o, p, []⟩ ∧ (∀ h, r = .ok h → p = .bound) ∧
        ∀ e, r = .error e → p = .released := by
  obtain ⟨-, -, hb, hr⟩ := Stage.placed_mem_told.mp hp
  cases hs with
  | issued _ _ hc =>
    cases hb
    cases hr
    exact ⟨_, hc, fun _ _ => rfl, nofun⟩
  | refused _ _ hc =>
    cases hb
    cases hr
    exact ⟨_, hc, nofun, fun _ _ => rfl⟩
  | away _ _ hn => cases hn.symm.trans hb
  | connected | queued | begun | declined | took | tookNext | released | abandoned | performed
  | closed => cases hb

theorem slot?_of_placed (hs : Shift m m' id before s') {k : CallId} {c : CellId} {o : C}
    {r : Except DriverError Handle}
    (hp : .placed k c o r ∈ Stage.told id m.cells.size before s') :
    m'.slot? c = some (.ofConnection o) := by
  obtain ⟨-, rfl, -⟩ := Stage.placed_mem_told.mp hp
  obtain ⟨p, hc, -⟩ := hs.cells_of_placed hp
  rw [slot?, hc, Array.getElem?_push_size, Option.map_some]

theorem placed_mem (hs : Shift m m' id before s') {o : C}
    (hb : before.bind Stage.connection? = some o) :
    ∃ r, .placed id m.cells.size o r ∈ Stage.told id m.cells.size before s' ∧
      s' = .finished (r.map .handle) := by
  obtain ⟨-, ⟨-, -, rfl⟩ | ⟨-, -, rfl⟩⟩ := hs.of_connection hb
  · exact ⟨_, Stage.placed_mem_told.mpr ⟨rfl, rfl, hb, rfl⟩, rfl⟩
  · exact ⟨_, Stage.placed_mem_told.mpr ⟨rfl, rfl, hb, rfl⟩, rfl⟩

end Shift

/-- A call that has finished stays so. -/
theorem Turn.finished (ht : Turn m m' id s') (hs : Shift m m' id m.calls[id]? s') {k : CallId}
    {o : Outcome} (hk : m.calls[k]? = some (.finished o)) : m'.calls[k]? = some (.finished o) := by
  by_cases he : k = id
  · subst he
    rw [ht.here, hs.finished hk]
  · exact (ht.other k he).trans hk

namespace Openings

theorem of_made_shift (ho : Openings bound trace m) (ht : Turn m m' id s')
    (hs : Shift m m' id m.calls[id]? s') {k : CallId} {o : C}
    (hk : .made k o ∈ trace ++ Stage.told id m.cells.size m.calls[id]? s') :
    m'.calls[k]? = some (.connected o) ∨
      ∃ c r, .placed k c o r ∈ trace ++ Stage.told id m.cells.size m.calls[id]? s' := by
  rcases List.mem_append.mp hk with hk | hk
  · rcases ho.of_made hk with hc | ⟨c, r, hp⟩
    · by_cases he : k = id
      · subst he
        obtain ⟨r, hp, -⟩ := hs.placed_mem (connection?_of_connected.mpr hc)
        exact .inr ⟨_, r, List.mem_append_right trace hp⟩
      · exact .inl ((ht.other k he).trans hc)
    · exact .inr ⟨c, r, List.mem_append_left _ hp⟩
  · obtain ⟨rfl, hc⟩ := Stage.made_mem_told.mp hk
    exact .inl (ht.here.trans (connection?_of_connected.mp hc))

theorem placed_of_get?_shift (ho : Openings bound trace m)
    (hm : Move m m' m.calls[id]? s' es) (hs : Shift m m' id m.calls[id]? s') {h : Handle}
    {c : CellId} (hg : m'.table.get? h = some c) :
    ∃ k o, .placed k c o (.ok h) ∈ trace ++ Stage.told id m.cells.size m.calls[id]? s' := by
  have hold (hg : m.table.get? h = some c) :
      ∃ k o, .placed k c o (.ok h) ∈ trace ++ Stage.told id m.cells.size m.calls[id]? s' := by
    obtain ⟨k, o, hp⟩ := ho.placed_of_get? hg
    exact ⟨k, o, List.mem_append_left _ hp⟩
  rcases hm.get?_of_get? hg with hg' | hi
  · exact hold hg'
  · obtain ⟨o, hb⟩ := hm.connected_of_issued hi
    obtain ⟨rfl, rfl, -⟩ := hm.of_issued hi
    obtain ⟨-, ⟨-, -, rfl⟩ | ⟨-, ht', -⟩⟩ := hs.of_connection hb
    · exact ⟨id, o, List.mem_append_right trace (Stage.placed_mem_told.mpr ⟨rfl, rfl, hb, rfl⟩)⟩
    · exact hold (ht' ▸ hg)

/-- Every step keeps account of the connections. -/
theorem shift (ho : Openings bound trace m) (ht : Turn m m' id s')
    (hm : Move m m' m.calls[id]? s' es) (hs : Shift m m' id m.calls[id]? s') :
    Openings bound (trace ++ Stage.told id m.cells.size m.calls[id]? s') m' where
  bounded := hm.bounded ho.bounded
  made_of_connected := ho.made_of_connected_shift ht
  of_made := ho.of_made_shift ht hs
  made_of_placed hp := by
    rcases List.mem_append.mp hp with hp | hp
    · exact List.mem_append_left _ (ho.made_of_placed hp)
    · obtain ⟨rfl, -, hb, -⟩ := hs.of_placed hp
      exact List.mem_append_left _ (ho.made_of_connected (connection?_of_connected.mp hb))
  placed_lt hp := by
    rcases List.mem_append.mp hp with hp | hp
    · exact (ho.placed_lt hp).trans_le hm.size_le
    · obtain ⟨-, rfl, -, -, hn, -⟩ := hs.of_placed hp
      rw [hn]
      exact Nat.lt_add_one m.cells.size
  placed_unique := ho.placed_unique_shift
  finished_of_placed hp := by
    rcases List.mem_append.mp hp with hp | hp
    · exact ht.finished hs (ho.finished_of_placed hp)
    · obtain ⟨rfl, -, -, he, -⟩ := hs.of_placed hp
      rw [ht.here, he]
  error_of_placed hp := by
    rcases List.mem_append.mp hp with hp | hp
    · exact ho.error_of_placed hp
    · obtain ⟨-, -, -, -, -, ⟨-, hr, -⟩ | ⟨-, hr, -⟩⟩ := hs.of_placed hp
      · cases hr
      · cases hr
        rw [ho.bounded.capacity]
  placed_of_get? := ho.placed_of_get?_shift hm hs
  placed_of_handle := by
    intro k h hk
    rcases ht.elim hk with ⟨rfl, he⟩ | ⟨-, hk⟩
    · obtain ⟨o, hb⟩ := hs.of_handle he.symm
      obtain ⟨r, hp, hr⟩ := hs.placed_mem hb
      cases r with
      | error e => cases he.trans hr
      | ok h' =>
        cases he.trans hr
        exact ⟨_, o, List.mem_append_right trace hp⟩
    · obtain ⟨c, o, hp⟩ := ho.placed_of_handle hk
      exact ⟨c, o, List.mem_append_left _ hp⟩

end Openings

/-- Handles and connections belong together one to one, and never are there more than `bound`. -/
structure Unaliased (bound : Nat) (trace : List (Mark C)) (m : Machine W C) : Prop where
  size_le : m.table.size ≤ bound
  /-- The connections are those that backends make for the opens that ask them for one. -/
  answered : ∀ (m' : Machine W C) (k : CallId) (o : C), m.step k = some m' →
    (.made k o ∈ m.marks m' k ↔ ∃ t options b, m.calls[k]? = some (.connecting t options b) ∧
      (b.connect t options m.setup.config m.world).1 = .ok o)
  /-- The connection that was made is the one in the new cell, and the other cells stay as they
  are. -/
  placed : ∀ (m' : Machine W C) (k : CallId) (c : CellId) (o : C) (r : Except DriverError Handle),
    m.step k = some m' → .placed k c o r ∈ m.marks m' k →
      m.cells.size ≤ c ∧ m'.slot? c = some (.ofConnection o) ∧
        ∀ d ≠ c, m'.cells[d]? = m.cells[d]?
  /-- A handle that an open gets was free, and is bound to the connection in a cell of its own. -/
  fresh : ∀ (m' : Machine W C) (k : CallId) (c : CellId) (o : C) (h : Handle),
    m.step k = some m' → .placed k c o (.ok h) ∈ m.marks m' k →
      m.table.get? h = none ∧ m.cells.size ≤ c ∧ m'.phase? c = some .bound ∧
        m'.table.get? = Function.update m.table.get? h (some c)
  /-- An open gets none when there is no room, even though there was when it asked its backend. -/
  refused : ∀ (m' : Machine W C) (k : CallId) (c : CellId) (o : C) (e : DriverError),
    m.step k = some m' → .placed k c o (.error e) ∈ m.marks m' k →
      m.table.size = bound ∧ m'.phase? c = some .released ∧ m'.table = m.table
  asked : ∀ (raw : String) (t : Target) (b : Backend W C),
    m.setup.backendFor m.table raw = .ok (t, b) → m.table.size < bound
  /-- A connection waits for its cell, or is bound under the handle that its open returns and no
  other one until it is closed, or is never bound. -/
  made : ∀ (k : CallId) (o : C), .made k o ∈ trace →
    m.calls[k]? = some (.connected o) ∨
    (∃ c h, .placed k c o (.ok h) ∈ trace ∧ m.calls[k]? = some (.finished (.ok (.handle h))) ∧
      ∀ h', m.table.get? h' = some c → h' = h) ∨
    (∃ c, .placed k c o (.error (.tooManyHandles bound)) ∈ trace ∧
      m.calls[k]? = some (.finished (.error (.tooManyHandles bound))) ∧
      ∀ h', m.table.get? h' ≠ some c)
  placed_once : ∀ (j k : CallId) (c d : CellId) (o p : C) (r t : Except DriverError Handle),
    .placed j c o r ∈ trace → .placed k d p t ∈ trace → j = k ∨ c = d →
      j = k ∧ c = d ∧ o = p ∧ r = t
  returned : ∀ (k : CallId) (h : Handle), m.calls[k]? = some (.finished (.ok (.handle h))) →
    ∃ c o, .made k o ∈ trace ∧ .placed k c o (.ok h) ∈ trace
  entry : ∀ (h : Handle) (c : CellId), m.table.get? h = some c →
    ∃ k o, .made k o ∈ trace ∧ .placed k c o (.ok h) ∈ trace ∧
      m.calls[k]? = some (.finished (.ok (.handle h)))
  failed : ∀ (k : CallId) (e : DriverError), m.calls[k]? = some (.finished (.error e)) →
    ∀ (h : Handle) (c : CellId), m.table.get? h = some c →
      ∀ (o : C) (r : Except DriverError Handle), .placed k c o r ∉ trace

theorem made_iff_of_step {k : CallId} {o : C} (hs : m.step k = some m') :
    .made k o ∈ m.marks m' k ↔ ∃ t options b, m.calls[k]? = some (.connecting t options b) ∧
      (b.connect t options m.setup.config m.world).1 = .ok o := by
  obtain ⟨s, hc, hnext⟩ := Option.bind_eq_some_iff.mp hs
  obtain ⟨s', ht, hsh, -⟩ := shifts_step hc hs
  rw [ht.marks, Stage.made_mem_told, and_iff_right rfl]
  refine ⟨fun ho => hc ▸ hsh.of_connected ho, ?_⟩
  rintro ⟨t, options, b, hb, ho⟩
  cases hc.symm.trans hb
  obtain ⟨world, hw⟩ : ∃ world, b.connect t options m.setup.config m.world = (.ok o, world) :=
    ⟨_, Prod.ext ho rfl⟩
  have hm : { m with world := world }.put k (.connected o) = m' := by
    have hconnect : m.connect k t options b = m' := Option.some.inj hnext
    rw [← hconnect, connect, hw]
  have hput : Turn m m' k (.connected o) := hm ▸ Turn.put (n := { m with world := world }) hc rfl _
  rw [ht.unique hput]
  rfl

theorem cells_of_step {k : CallId} {c : CellId} {o : C} {r : Except DriverError Handle}
    (hs : m.step k = some m') (hp : .placed k c o r ∈ m.marks m' k) : c = m.cells.size ∧ ∃ p,
      m'.cells = m.cells.push ⟨.ofConnection o, p, []⟩ ∧ (∀ h, r = .ok h → p = .bound) ∧
        ∀ e, r = .error e → p = .released := by
  obtain ⟨s, hc, -⟩ := Option.bind_eq_some_iff.mp hs
  obtain ⟨s', ht, hsh, -⟩ := shifts_step hc hs
  rw [ht.marks, hc] at hp
  exact ⟨(Stage.placed_mem_told.mp hp).2.1, hsh.cells_of_placed hp⟩

theorem Openings.of_step (ho : Openings bound trace m) {k : CallId} {c : CellId} {o : C}
    {r : Except DriverError Handle} (hs : m.step k = some m')
    (hp : .placed k c o r ∈ m.marks m' k) :
    c = m.cells.size ∧
      ((m.table.size ≠ bound ∧ r = .ok m.table.free ∧ m'.table = m.table.issue c) ∨
        (m.table.size = bound ∧ r = .error (.tooManyHandles m.table.capacity) ∧
          m'.table = m.table)) := by
  obtain ⟨s, hc, -⟩ := Option.bind_eq_some_iff.mp hs
  obtain ⟨s', ht, hsh, -⟩ := shifts_step hc hs
  rw [ht.marks, hc] at hp
  obtain ⟨-, hcell, -, -, -, ⟨hf, hr, he⟩ | ⟨hf, hr, he⟩⟩ := hsh.of_placed hp
  · exact ⟨hcell, .inl ⟨ho.bounded.size_ne hf, hr, he⟩⟩
  · exact ⟨hcell, .inr ⟨ho.bounded.isFull_iff.mp hf, hr, he⟩⟩

end Machine

variable {W C : Type} [Connection C] {config : Config} {backends : List (Backend W C)} {world : W}
  {trace : List (Mark C)} {m : Machine W C}

theorem Chronicle.openings (h : Chronicle config backends world trace m) :
    Machine.Openings (min config.maxHandles Handle.greatest.toNat) trace m :=
  h.of_shifts (Machine.openings_new config backends world) fun _ ho ht hm hs => ho.shift ht hm hs

/-- However opens overlap with other calls, there is never more than room for, and every connection
that was made is bound under the handle that its open returns, and under no other. -/
theorem opens_unaliased (h : Chronicle config backends world trace m) :
    m.Unaliased (min config.maxHandles Handle.greatest.toNat) trace where
  size_le := h.openings.bounded.size_le
  answered m' k o hs := Machine.made_iff_of_step hs
  placed m' k c o r hs hp := by
    obtain ⟨rfl, p, hcells, -⟩ := Machine.cells_of_step hs hp
    refine ⟨le_rfl, ?_, fun d hd => ?_⟩
    · rw [Machine.slot?, hcells, Array.getElem?_push_size, Option.map_some]
    · rw [hcells, Array.getElem?_push, if_neg hd]
  fresh m' k c o g hs hp := by
    have ho := h.openings
    obtain ⟨-, p, hcells, hbound, -⟩ := Machine.cells_of_step hs hp
    obtain ⟨rfl, ⟨hn, hr, ht⟩ | ⟨-, hr, -⟩⟩ := ho.of_step hs hp
    · cases hr
      refine ⟨ho.bounded.get?_free hn, le_rfl, ?_, by rw [ht, HandleTable.get?_issue]⟩
      rw [Machine.phase?, hcells, Array.getElem?_push_size, Option.map_some, hbound _ rfl]
    · cases hr
  refused m' k c o e hs hp := by
    obtain ⟨-, p, hcells, -, hreleased⟩ := Machine.cells_of_step hs hp
    obtain ⟨rfl, ⟨-, hr, -⟩ | ⟨hn, -, ht⟩⟩ := h.openings.of_step hs hp
    · cases hr
    · refine ⟨hn, ?_, ht⟩
      rw [Machine.phase?, hcells, Array.getElem?_push_size, Option.map_some, hreleased _ rfl]
  asked raw t b hb := by
    have ho := h.openings.bounded
    refine lt_of_le_of_ne ho.size_le fun hn => ?_
    obtain ⟨-, -, -, hroom⟩ := Setup.backendFor_eq_ok_iff.mp hb
    cases hroom.symm.trans (ho.isFull_iff.mpr hn)
  made k o hm := by
    have ho := h.openings
    rcases ho.of_made hm with hc | ⟨c, r, hp⟩
    · exact .inl hc
    · cases r with
      | ok g => exact .inr (.inl ⟨c, g, hp, ho.finished_of_placed hp, fun g' hg =>
          (Except.ok.inj (ho.of_get? hp hg)).symm⟩)
      | error e =>
        cases ho.error_of_placed hp
        exact .inr (.inr ⟨c, hp, ho.finished_of_placed hp, fun g' hg => by cases ho.of_get? hp hg⟩)
  placed_once j k c d o p r t hp hq he := h.openings.placed_unique hp hq he
  returned k g hk := by
    obtain ⟨c, o, hp⟩ := h.openings.placed_of_handle hk
    exact ⟨c, o, h.openings.made_of_placed hp, hp⟩
  entry g c hg := by
    obtain ⟨k, o, hp⟩ := h.openings.placed_of_get? hg
    exact ⟨k, o, h.openings.made_of_placed hp, hp, h.openings.finished_of_placed hp⟩
  failed k e hk g c hg o r hp := by
    cases h.openings.of_get? hp hg
    cases hk.symm.trans (h.openings.finished_of_placed hp)

namespace Crowd

open Scripted

def single : Config := { Config.default with maxHandles := 1 }

def start : Machine Tallies Link := .new single [(Script.plain []).backend "0"] []

/-- Both opens ask their backend while there is room for one. -/
def openBoth : List Act :=
  [.begin (.openTarget "a" ""), .begin (.openTarget "b" ""), .step 0, .step 1, .step 1, .step 0,
    .step 0, .step 1]

def view (r : List (Mark Link) × Machine Tallies Link) :
    List (Option Outcome) × Option CellId × List Phase :=
  (r.2.calls.toList.map Stage.outcome?, r.2.table.get? 1, r.2.cells.toList.map Cell.phase)

theorem view_openBoth : (rehearse openBoth [] start).map view =
    some ([some (.ok (.handle 1)), some (.error (.tooManyHandles 1))], some 0,
      [.bound, .released]) := by
  rfl

theorem opens_unaliased_after_openBoth : ∃ (trace : List (Mark Link)) (m : Machine Tallies Link),
    Chronicle single [(Script.plain []).backend "0"] [] trace m ∧ m.Unaliased 1 trace ∧
      m.table.get? 1 = some 0 ∧ m.cells.toList.map Cell.phase = [.bound, .released] ∧
      m.calls.toList.map Stage.outcome? =
        [some (.ok (.handle 1)), some (.error (.tooManyHandles 1))] := by
  obtain ⟨⟨trace, m⟩, hp, hv⟩ := Option.map_eq_some_iff.mp view_openBoth
  obtain ⟨hcalls, hg, hphases⟩ := Prod.mk.inj hv |>.imp_right Prod.mk.inj
  have h : Chronicle single [(Script.plain []).backend "0"] [] trace m := .rehearse .new hp
  exact ⟨trace, m, h, opens_unaliased h, hg, hphases, hcalls⟩

end Crowd
end Overlap
end GuestNet
