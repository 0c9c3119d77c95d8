import GuestNet.Proofs.Overlap.Closing
import GuestNet.Proofs.Overlap.Exclusion

/-! The course of a connection: what it does for calls that overlap is one thing after another, and
nothing after it was closed. So the calls have the outcomes that they would have had without the
others, one after another in the order in which each got the connection. -/
namespace GuestNet.Overlap

namespace Work

def operation? : Work → Option Operation
  | operation op => some op
  | close => none

end Work

namespace Mark

variable {C : Type}

/-- The mark tells of the connection in a cell that it begins or ends to be at work. -/
def isAt (c : CellId) : Mark C → Bool
  | started _ cell _ => cell = c
  | ended _ cell _ => cell = c
  | _ => false

end Mark

/-- A call and what a connection has done for it, or does. -/
abbrev Service := CallId × Work

variable {W C : Type}

def worksAt (c : CellId) (trace : List (Mark C)) : List (Mark C) := trace.filter (Mark.isAt c)

def Service.begun (c : CellId) (v : Service) : Mark C := .started v.1 c v.2

/-- A service in which nothing else begins or ends. -/
def Service.span (c : CellId) (v : Service) : List (Mark C) := [v.begun c, .ended v.1 c v.2]

def operations (done : List Service) : List (CallId × Operation) :=
  done.filterMap fun v => v.2.operation?.map (v.1, ·)

def Machine.outcome? (m : Machine W C) (id : CallId) : Option Outcome :=
  m.calls[id]?.bind Stage.outcome?

theorem worksAt_append (c : CellId) (trace trace' : List (Mark C)) :
    worksAt c (trace ++ trace') = worksAt c trace ++ worksAt c trace' :=
  List.filter_append ..

theorem worksAt_told {c : CellId} {id : CallId} {fresh : CellId} {before : Option (Stage W C)}
    {after : Stage W C} : worksAt c (Stage.told id fresh before after) =
      (before.bind (Stage.workAt? c)).toList.map (.ended id c) ++
        (after.workAt? c).toList.map (.started id c) := by
  have hmade : worksAt c (after.connection?.toList.map fun o => .made id o) = [] := by
    cases after.connection? <;> rfl
  have hplaced : worksAt c ((before.bind Stage.connection?).toList.flatMap fun o =>
      after.opened?.toList.map fun r => .placed id fresh o r) = [] := by
    cases before.bind Stage.connection? <;> cases after.opened? <;> rfl
  have hwork (s : Option (CellId × Work)) (f : CellId × Work → Mark C)
      (hf : ∀ w, (f w).isAt c = decide (w.1 = c)) : worksAt c (s.toList.map f) =
        ((s.filter fun w => w.1 = c).map Prod.snd).toList.map fun w => f (c, w) := by
    rcases s with _ | ⟨cell, w⟩
    · rfl
    · by_cases he : cell = c
      · subst he
        simp [worksAt, hf, Option.filter]
      · simp [worksAt, hf, he, Option.filter]
  have hbind : before.bind (Stage.workAt? c) =
      ((before.bind Stage.work?).filter fun w => w.1 = c).map Prod.snd := by
    cases before <;> rfl
  rw [Stage.told, worksAt_append, worksAt_append, worksAt_append, hmade, hplaced,
    hwork _ _ fun _ => rfl, hwork _ _ fun _ => rfl, hbind, Stage.workAt?]
  rfl

theorem operations_append (done done' : List Service) :
    operations (done ++ done') = operations done ++ operations done' :=
  List.filterMap_append ..

namespace Machine

variable {m m' : Machine W C} {id : CallId} {s' : Stage W C} {es : List Event}
  {trace : List (Mark C)} {log : List Event} {bound limit : Nat} {c : CellId}
  {done : List Service} {now : Option Service} {v : Service} {w : Work}

/-- The others are at work where they were. -/
theorem Turn.workAt?_of_ne (ht : Turn m m' id s') {k : CallId} (hk : k ≠ id) :
    m'.calls[k]?.bind (Stage.workAt? c) = m.calls[k]?.bind (Stage.workAt? c) := by
  rw [ht.other k hk]

variable [Connection C]

/-- What the connection in a cell has done, and what it does now. -/
structure Course (limit : Nat) (trace : List (Mark C)) (m : Machine W C) (c : CellId)
    (done : List Service) (now : Option Service) : Prop where
  marks : worksAt c trace = done.flatMap (Service.span c) ++ now.toList.map (Service.begun c)
  now_iff : ∀ {k : CallId} {w : Work},
    now = some (k, w) ↔ m.calls[k]?.bind (Stage.workAt? c) = some w
  unborn : m.cells.size ≤ c → done = []
  closed_last : (done ++ now.toList).Pairwise fun v _ => v.2 ≠ .close
  released : ∀ v ∈ done, v.2 = .close → m.phase? c = some .released
  outcomes : ∀ {j : CallId} {o : C} {r : Except DriverError Handle}, .placed j c o r ∈ trace →
    (operations done).map (fun v => m.outcome? v.1) =
      (Slot.performAll limit ((operations done).map Prod.snd) (.ofConnection o)).1.map some
  slot : ∀ {j : CallId} {o : C} {r : Except DriverError Handle}, .placed j c o r ∈ trace →
    (∀ v ∈ done, v.2 ≠ .close) →
      m.slot? c = some (Slot.performAll limit ((operations done).map Prod.snd) (.ofConnection o)).2
  /-- What it left when it was closed, which was after all operations. -/
  closed : ∀ {j : CallId} {o : C} {r : Except DriverError Handle}, .placed j c o r ∈ trace →
    (∃ v ∈ done, v.2 = .close) → m.slot? c =
      some (Slot.performAll limit ((operations done).map Prod.snd) (.ofConnection o)).2.closed

theorem course_new (config : Config) (backends : List (Backend W C)) (world : W) (limit : Nat)
    (c : CellId) : Course limit [] (new config backends world) c [] none where
  marks := rfl
  now_iff := by simp [new]
  unborn _ := rfl
  closed_last := .nil
  released v hv := by cases hv
  outcomes hp := by cases hp
  slot hp := by cases hp
  closed hp := by cases hp

theorem Turn.outcome? (ht : Turn m m' id s') (hs : Shift m m' id m.calls[id]? s') {k : CallId}
    {o : Outcome} (hk : m.outcome? k = some o) : m'.outcome? k = some o := by
  obtain ⟨s, hc, hs'⟩ := Option.bind_eq_some_iff.mp hk
  cases s with
  | finished =>
    cases hs'
    rw [Machine.outcome?, ht.finished hs hc]
    rfl
  | _ => cases hs'

namespace Course

/-- The call for which the connection works is the only one. -/
theorem now_eq_none (ha : m.Attended) (hc : Course limit trace m c done now)
    (hf : m.first? c = some id) (hn : m.calls[id]?.bind (Stage.workAt? c) = none) : now = none := by
  refine Option.eq_none_iff_forall_ne_some.mpr fun v hv => ?_
  obtain ⟨s, hk, hw⟩ := Option.bind_eq_some_iff.mp (hc.now_iff.mp hv)
  have hcell := Stage.cell?_of_work? (Stage.workAt?_eq_some_iff.mp hw)
  have he : v.1 = id := Option.some.inj ((ha hk hcell).symm.trans hf)
  rw [← he, hk] at hn
  cases hn.symm.trans hw

theorem outcomes_shift (hc : Course limit trace m c done now) (ht : Turn m m' id s')
    (hs : Shift m m' id m.calls[id]? s') {j : CallId} {o : C} {r : Except DriverError Handle}
    (hp : .placed j c o r ∈ trace) : (operations done).map (fun v => m'.outcome? v.1) =
      (Slot.performAll limit ((operations done).map Prod.snd) (.ofConnection o)).1.map some := by
  rw [← hc.outcomes hp]
  refine List.map_congr_left fun v hv => ?_
  have hmem : m.outcome? v.1 ∈ (operations done).map fun v => m.outcome? v.1 :=
    List.mem_map_of_mem hv
  rw [hc.outcomes hp] at hmem
  obtain ⟨out, -, ho⟩ := List.mem_map.mp hmem
  rw [← ho, ht.outcome? hs ho.symm]

/-- A connection that gets a cell has done nothing. -/
theorem of_placed (ho : Openings bound trace m) (hc : Course limit trace m c done now)
    (hs : Shift m m' id m.calls[id]? s') {j : CallId} {o : C} {r : Except DriverError Handle}
    (hp : .placed j c o r ∈ trace ++ Stage.told id m.cells.size m.calls[id]? s') :
    .placed j c o r ∈ trace ∧ c < m.cells.size ∨
      done = [] ∧ m'.slot? c = some (.ofConnection o) := by
  rcases List.mem_append.mp hp with hp | hp
  · exact .inl ⟨hp, ho.placed_lt hp⟩
  · exact .inr ⟨hc.unborn (hs.of_placed hp).2.1.ge, hs.slot?_of_placed hp⟩

theorem outcomes_told (ho : Openings bound trace m) (hc : Course limit trace m c done now)
    (ht : Turn m m' id s') (hs : Shift m m' id m.calls[id]? s') {j : CallId} {o : C}
    {r : Except DriverError Handle}
    (hp : .placed j c o r ∈ trace ++ Stage.told id m.cells.size m.calls[id]? s') :
    (operations done).map (fun v => m'.outcome? v.1) =
      (Slot.performAll limit ((operations done).map Prod.snd) (.ofConnection o)).1.map some := by
  rcases hc.of_placed ho hs hp with ⟨hp, -⟩ | ⟨rfl, -⟩
  · exact hc.outcomes_shift ht hs hp
  · rfl

/-- Before the connection does anything more, it was not closed. -/
theorem ne_close (hc : Course limit trace m c done (some v)) : ∀ u ∈ done, u.2 ≠ .close :=
  fun u hu => (List.pairwise_append.mp hc.closed_last).2.2 u hu v (List.mem_singleton.mpr rfl)

theorem apart (hcust : Custody log m) (ho : Openings bound trace m)
    (hc : Course limit trace m c done now) (ht : Turn m m' id s')
    (hm : Move m m' m.calls[id]? s' es) (hs : Shift m m' id m.calls[id]? s')
    (hb : m.calls[id]?.bind (Stage.workAt? c) = none) (hw : s'.workAt? c = none)
    (hslot : c < m.cells.size → m'.slot? c = m.slot? c) :
    Course limit (trace ++ Stage.told id m.cells.size m.calls[id]? s') m' c done now where
  marks := by simp [worksAt_append, worksAt_told, hb, hw, hc.marks]
  now_iff {k w} := by
    rw [hc.now_iff]
    by_cases hk : k = id
    · subst hk
      simp [ht.here, hb, hw]
    · rw [ht.workAt?_of_ne hk]
  unborn hn := hc.unborn (hm.size_le.trans hn)
  closed_last := hc.closed_last
  released v hv he := Closing.phase_of_released hcust hm (hc.released v hv he)
  outcomes := hc.outcomes_told ho ht hs
  slot hp hn := by
    rcases hc.of_placed ho hs hp with ⟨hp, hlt⟩ | ⟨rfl, hslot⟩
    · rw [hslot hlt, hc.slot hp hn]
    · exact hslot
  closed hp hv := by
    rcases hc.of_placed ho hs hp with ⟨hp, hlt⟩ | ⟨rfl, -⟩
    · rw [hslot hlt, hc.closed hp hv]
    · obtain ⟨v, hv, -⟩ := hv
      cases hv

theorem starts (ha : m.Attended) (ho : Openings bound trace m)
    (hc : Course limit trace m c done now) (ht : Turn m m' id s')
    (hm : Move m m' m.calls[id]? s' es) (hs : Shift m m' id m.calls[id]? s')
    (hb : m.calls[id]?.bind (Stage.workAt? c) = none) (hw : s'.workAt? c = some w)
    (hf : m.first? c = some id) (hp : m.phase? c ≠ some .released)
    (hslot : m'.slot? c = m.slot? c) :
    Course limit (trace ++ Stage.told id m.cells.size m.calls[id]? s') m' c done
      (some (id, w)) := by
  cases hc.now_eq_none ha hf hb
  exact {
    marks := by simp [worksAt_append, worksAt_told, hb, hw, hc.marks, Service.begun]
    now_iff := by
      intro k u
      by_cases hk : k = id
      · subst hk
        simp [ht.here, hw]
      · rw [ht.workAt?_of_ne hk, ← hc.now_iff]
        simp [Ne.symm hk]
    unborn := fun hn => hc.unborn (hm.size_le.trans hn)
    closed_last := by
      refine List.pairwise_append.mpr ⟨?_, List.pairwise_singleton _ _, fun v hv _ _ he => ?_⟩
      · exact (List.pairwise_append.mp hc.closed_last).1
      · exact hp (hc.released v hv he)
    released := fun v hv he => absurd (hc.released v hv he) hp
    outcomes := hc.outcomes_told ho ht hs
    slot := fun hp hn => by
      rcases hc.of_placed ho hs hp with ⟨hp, hlt⟩ | ⟨rfl, hslot⟩
      · rw [hslot, hc.slot hp hn]
      · exact hslot
    closed := fun _ ⟨v, hv, he⟩ => absurd (hc.released v hv he) hp }

/-- A connection that was at work is not so any more. -/
theorem now_iff_of_end (hc : Course limit trace m c done (some (id, w))) (ht : Turn m m' id s')
    (hw : s'.workAt? c = none) {k : CallId} {u : Work} :
    none = some (k, u) ↔ m'.calls[k]?.bind (Stage.workAt? c) = some u := by
  refine iff_of_false (by simp) fun hu => ?_
  by_cases hk : k = id
  · subst hk
    simp [ht.here, hw] at hu
  · rw [ht.workAt?_of_ne hk, ← hc.now_iff] at hu
    cases hu
    exact hk rfl

theorem marks_of_end (hc : Course limit trace m c done (some (id, w)))
    (hb : m.calls[id]?.bind (Stage.workAt? c) = some w) (hw : s'.workAt? c = none) :
    worksAt c (trace ++ Stage.told id m.cells.size m.calls[id]? s') =
      (done ++ [(id, w)]).flatMap (Service.span c) ++
        (none : Option Service).toList.map (Service.begun c) := by
  simp [worksAt_append, worksAt_told, hb, hw, hc.marks, Service.begun, Service.span]

theorem lt_of_now (ha : m.Attended) (hc : Course limit trace m c done (some (id, w))) :
    c < m.cells.size := by
  obtain ⟨s, hk, hw⟩ := Option.bind_eq_some_iff.mp (hc.now_iff.mp rfl)
  exact lt_of_first? (ha hk (Stage.cell?_of_work? (Stage.workAt?_eq_some_iff.mp hw)))

/-- A connection at work has its cell already. -/
theorem placed_of_now (ha : m.Attended) (hc : Course limit trace m c done (some (id, w)))
    {before : Option (Stage W C)} {j : CallId} {o : C} {r : Except DriverError Handle}
    (hp : .placed j c o r ∈ trace ++ Stage.told id m.cells.size before s') :
    .placed j c o r ∈ trace := by
  refine (List.mem_append.mp hp).resolve_right fun hp => ?_
  exact (hc.lt_of_now ha).ne (Stage.placed_mem_told.mp hp).2.1

theorem performs (ha : m.Attended) (hc : Course limit trace m c done now) (ht : Turn m m' id s')
    (hm : Move m m' m.calls[id]? s' es) (hs : Shift m m' id m.calls[id]? s') {op : Operation}
    {slot : Slot C}
    (hb : m.calls[id]? = some (.performing c op)) (hslot : m.slot? c = some slot)
    (hs' : s' = .finished (slot.perform limit op).1)
    (hslot' : m'.slot? c = some (slot.perform limit op).2) :
    Course limit (trace ++ Stage.told id m.cells.size m.calls[id]? s') m' c
      (done ++ [(id, .operation op)]) none := by
  have hwork : m.calls[id]?.bind (Stage.workAt? c) = some (.operation op) := by
    rw [hb]
    exact Stage.workAt?_eq_some_iff.mpr rfl
  have hw : s'.workAt? c = none := by
    rw [hs']
    rfl
  obtain rfl := hc.now_iff.mpr hwork
  have hops : operations (done ++ [(id, Work.operation op)]) = operations done ++ [(id, op)] :=
    operations_append done _
  exact {
    marks := hc.marks_of_end hwork hw
    now_iff := hc.now_iff_of_end ht hw
    unborn := fun hn => absurd (hm.size_le.trans hn) (hc.lt_of_now ha).not_ge
    closed_last := by simpa using hc.closed_last
    released := fun v hv he => by
      rcases List.mem_append.mp hv with hv | hv
      · exact absurd he (hc.ne_close v hv)
      · cases List.mem_singleton.mp hv
        cases he
    outcomes := fun hp => by
      have hp := hc.placed_of_now ha hp
      have hslot₀ := hc.slot hp hc.ne_close
      have hhere : m'.outcome? id = some (slot.perform limit op).1 := by
        rw [outcome?, ht.here, hs']
        rfl
      rw [hslot] at hslot₀
      rw [hops, List.map_append, List.map_append, List.map_singleton, List.map_singleton,
        Slot.performAll_concat, List.map_append, List.map_singleton, ← Option.some.inj hslot₀,
        ← hc.outcomes_shift ht hs hp, hhere]
    slot := fun hp hn => by
      have hslot₀ := hc.slot (hc.placed_of_now ha hp) hc.ne_close
      rw [hslot] at hslot₀
      rw [hslot', hops, List.map_append, List.map_singleton, Slot.performAll_concat,
        ← Option.some.inj hslot₀]
    closed := fun _ ⟨v, hv, he⟩ => by
      rcases List.mem_append.mp hv with hv | hv
      · exact absurd he (hc.ne_close v hv)
      · cases List.mem_singleton.mp hv
        cases he }

theorem closes (ha : m.Attended) (hc : Course limit trace m c done now) (ht : Turn m m' id s')
    (hm : Move m m' m.calls[id]? s' es) (hs : Shift m m' id m.calls[id]? s')
    {rest : List CellId} {slot : Slot C} (hb : m.calls[id]? = some (.closing c rest))
    (hs' : s' = .closeNext rest) (hslot : m.slot? c = some slot)
    (hslot' : m'.slot? c = some slot.closed) (hphase : m'.phase? c = some .released) :
    Course limit (trace ++ Stage.told id m.cells.size m.calls[id]? s') m' c
      (done ++ [(id, .close)]) none := by
  have hwork : m.calls[id]?.bind (Stage.workAt? c) = some .close := by
    rw [hb]
    exact Stage.workAt?_eq_some_iff.mpr rfl
  have hw : s'.workAt? c = none := by
    rw [hs']
    exact Stage.workAt?_eq_none (by simp)
  obtain rfl := hc.now_iff.mpr hwork
  have hops : operations (done ++ [(id, Work.close)]) = operations done := by
    rw [operations_append]
    exact List.append_nil _
  exact {
    marks := hc.marks_of_end hwork hw
    now_iff := hc.now_iff_of_end ht hw
    unborn := fun hn => absurd (hm.size_le.trans hn) (hc.lt_of_now ha).not_ge
    closed_last := by simpa using hc.closed_last
    released := fun _ _ _ => hphase
    outcomes := fun hp => by
      rw [hops]
      exact hc.outcomes_shift ht hs (hc.placed_of_now ha hp)
    slot := fun _ hn => absurd rfl (hn (id, .close) (by simp))
    closed := fun hp _ => by
      have hslot₀ := hc.slot (hc.placed_of_now ha hp) hc.ne_close
      rw [hslot] at hslot₀
      rw [hslot', hops, ← Option.some.inj hslot₀] }

/-- A connection that is closing, or was closed, is not in its cell. -/
theorem phase?_of_close (hcust : Custody log m) (hc : Course limit trace m c done now)
    (hv : v ∈ done ++ now.toList) (he : v.2 = .close) : m.phase? c ≠ some .bound := by
  rcases List.mem_append.mp hv with hv | hv
  · simp [hc.released v hv he]
  · obtain ⟨k, w⟩ := v
    cases he
    obtain ⟨s, hk, hw⟩ := Option.bind_eq_some_iff.mp (hc.now_iff.mp (Option.mem_toList.mp hv))
    cases s with
    | closing =>
      cases Stage.workAt?_eq_some_iff.mp hw
      simp [hcust.taken_of_holds hk rfl]
    | _ => cases Stage.workAt?_eq_some_iff.mp hw

/-- What the reads gave is what the connection had to give, but for the rest. -/
theorem left_eq (hc : Course limit trace m c done now) {left : C → Stream'.Seq UInt8}
    (hl : Connection.Streams left) {j : CallId} {o : C} {r : Except DriverError Handle}
    (hp : .placed j c o r ∈ trace) : left o = (Stream'.Seq.ofList
      (Slot.chunks ((operations done).map fun v => (v.2, m.outcome? v.1))).flatten).append
        (left (Slot.performAll limit ((operations done).map Prod.snd)
          (.ofConnection o)).2.connection) := by
  have hzip : ((operations done).map Prod.snd).zip ((operations done).map fun v => m.outcome? v.1) =
      (operations done).map fun v => (v.2, m.outcome? v.1) := List.zip_map'
  rw [← hzip, hc.outcomes hp]
  exact Slot.left_performAll hl limit _ (.ofConnection o)

/-- Every step goes on with the course of a connection. -/
theorem shift (hcust : Custody log m) (ha : m.Attended) (ho : Openings bound trace m)
    (hc : Course limit trace m c done now) (ht : Turn m m' id s')
    (hm : Move m m' m.calls[id]? s' es) (hs : Shift m m' id m.calls[id]? s')
    (hlimit : m.setup.config.maxTransfer = limit) : ∃ done' now',
      Course limit (trace ++ Stage.told id m.cells.size m.calls[id]? s') m' c done' now' := by
  have hv := hs.visit hcust ha c
  generalize hb : m.calls[id]? = before at hv
  cases hv with
  | apart hn hn' hslot => exact ⟨done, now, hb ▸ hc.apart hcust ho ht hm hs (hb ▸ hn) hn' hslot⟩
  | starts w hn hw hf hp hslot =>
    exact ⟨done, _, hb ▸ hc.starts ha ho ht hm hs (hb ▸ hn) hw hf hp hslot⟩
  | performs hslot hslot' =>
    subst hlimit
    exact ⟨_, none, hb ▸ hc.performs ha ht hm hs hb hslot rfl hslot'⟩
  | closes hslot hslot' hp =>
    exact ⟨_, none, hb ▸ hc.closes ha ht hm hs hb rfl hslot hslot' hp⟩

end Course

/-- A call whose turn comes when the connection is gone says so, and leaves the connection alone. -/
theorem step_of_late {k : CallId} {task : Task} (hk : m.calls[k]? = some (.waiting c task))
    (hf : m.first? c = some k) (hp : m.phase? c ≠ some .bound) :
    ∃ m', m.step k = some m' ∧ m'.calls[k]? = some task.declined ∧ m.marks m' k = [] ∧
      m'.slot? = m.slot? := by
  obtain ⟨d, hd, hl⟩ := Option.bind_eq_some_iff.mp hf
  have hne : d.phase ≠ .bound := by
    rintro he
    exact hp (by rw [phase?, hd, Option.map_some, he])
  have hstep : m.step k = some ((m.leave c).put k task.declined) := by
    rw [step, hk, Option.bind_some, advance, hd]
    dsimp only
    rw [if_pos hl, serve_of_ne_bound m k c hne]
  have hcalls : (m.leave c).calls = m.calls := rfl
  have ht := Turn.put hk hcalls task.declined
  refine ⟨_, hstep, ht.here, ?_, ?_⟩
  · rw [ht.marks, hk, Stage.told, Task.connection?_declined, Task.work?_declined]
    rfl
  · exact (changed_changeCell m c _).slot?_eq fun _ => rfl

end Machine

variable [Connection C] {config : Config} {backends : List (Backend W C)} {world : W}
  {trace : List (Mark C)} {m : Machine W C}

theorem Chronicle.course (h : Chronicle config backends world trace m) (c : CellId) :
    ∃ done now, m.Course config.maxTransfer trace c done now := by
  refine h.of_shifts
    (P := fun trace m => ∃ done now, Machine.Course config.maxTransfer trace m c done now) ?_ ?_
  · exact ⟨[], none, Machine.course_new config backends world _ c⟩
  · rintro trace m m' id s' es h ⟨done, now, hc⟩ ht hm hs
    obtain ⟨log, hcust⟩ := h.custody
    exact hc.shift hcust h.attended h.openings ht hm hs (by rw [h.setup]; rfl)

/-- Whatever calls there are and in whatever order they take their steps, a connection does one
thing after another and nothing after it was closed. A call whose turn comes later is told that its
handle is bad. What the reads give, in the order of their turns, is the beginning of what the
connection had to give, and the rest is still to come unless it was closed. -/
theorem connection_in_turn (h : Chronicle config backends world trace m) (c : CellId) :
    ∃ done now, m.Course config.maxTransfer trace c done now ∧
      ((∃ v ∈ done ++ now.toList, v.2 = .close) → m.phase? c ≠ some .bound) ∧
      (∀ (k : CallId) (task : Task) (g : Handle), m.calls[k]? = some (.waiting c task) →
        task.handle? = some g → m.first? c = some k → m.phase? c ≠ some .bound →
          ∃ m', m.step k = some m' ∧ m'.calls[k]? = some (.finished (.error (.badHandle g))) ∧
            m.marks m' k = [] ∧ m'.slot? = m.slot?) ∧
      ∀ left : C → Stream'.Seq UInt8, Connection.Streams left →
        ∀ (j : CallId) (o : C) (r : Except DriverError Handle), .placed j c o r ∈ trace →
          ∃ rest, left o = (Stream'.Seq.ofList
              (Slot.chunks ((operations done).map fun v => (v.2, m.outcome? v.1))).flatten).append
                rest ∧
            ((∀ v ∈ done, v.2 ≠ .close) →
              ∃ slot, m.slot? c = some slot ∧ rest = left slot.connection) := by
  obtain ⟨done, now, hc⟩ := h.course c
  obtain ⟨log, hcust⟩ := h.custody
  refine ⟨done, now, hc, fun ⟨v, hv, he⟩ => hc.phase?_of_close hcust hv he, ?_, ?_⟩
  · intro k task g hk hg hf hp
    obtain ⟨m', hs, hd, hmarks, hslot⟩ := Machine.step_of_late hk hf hp
    exact ⟨m', hs, hd.trans (congrArg some (Task.declined_of_handle? hg)), hmarks, hslot⟩
  · intro left hl j o r hp
    exact ⟨_, hc.left_eq hl hp, fun hn => ⟨_, hc.slot hp hn, rfl⟩⟩

namespace Contention

open Scripted

def payload : Bytes := [1, 2, 3, 4, 5, 6, 7]

def link : Link := .connect (Script.plain payload) ⟨"0", 0, ⟨"tcp", "a", "a"⟩, "", 65536⟩

def start : Machine Tallies Link := .new .default [(Script.plain payload).backend "0"] []

/-- Two reads overlap, the later one gets the connection first, and a third one comes to its turn
after a close. -/
def acts : List Act :=
  [.begin (.openTarget "a" ""), .step 0, .step 0, .step 0,
    .begin (.perform 1 (.read 2)), .begin (.perform 1 (.read 3)), .begin (.close 1),
    .begin (.perform 1 (.read 4)), .step 1, .step 2, .step 3, .step 4,
    .step 2, .step 1, .step 3, .step 4, .step 2, .step 2, .step 1, .step 1, .step 3, .step 3,
    .step 3]

def view (r : List (Mark Link) × Machine Tallies Link) :=
  (r.1[1]?, r.2.calls[4]?, r.2.first? 0, r.2.phase? 0, r.2.outcome? 1, r.2.outcome? 2,
    r.2.outcome? 3)

theorem view_acts : (rehearse acts [] start).map view =
    some (some (.placed 0 0 link (.ok 1)), some (.waiting 0 (.perform 1 (.read 4))), some 4,
      some .released, some (.ok (.bytes [4, 5])), some (.ok (.bytes [1, 2, 3])),
      some (.ok .nothing)) := by
  rfl

theorem connection_in_turn_after_acts : ∃ (told : List (Mark Link)) (m : Machine Tallies Link)
    (done : List Service) (now : Option Service),
    Chronicle .default [(Script.plain payload).backend "0"] [] told m ∧
      m.Course 65536 told 0 done now ∧ m.outcome? 2 = some (.ok (.bytes [1, 2, 3])) ∧
      m.outcome? 1 = some (.ok (.bytes [4, 5])) ∧
      (∃ m', m.step 4 = some m' ∧ m'.calls[4]? = some (.finished (.error (.badHandle 1)))) ∧
      ∃ rest, Stream'.Seq.ofList payload =
        (Stream'.Seq.ofList
          (Slot.chunks ((operations done).map fun v => (v.2, m.outcome? v.1))).flatten).append
            rest := by
  obtain ⟨⟨told, m⟩, hp, hv⟩ := Option.map_eq_some_iff.mp view_acts
  obtain ⟨hplaced, hlate, hfirst, hphase, h1, h2, -⟩ :
      told[1]? = some (.placed 0 0 link (.ok 1)) ∧
        m.calls[4]? = some (.waiting 0 (.perform 1 (.read 4))) ∧ m.first? 0 = some 4 ∧
        m.phase? 0 = some .released ∧ m.outcome? 1 = some (.ok (.bytes [4, 5])) ∧
        m.outcome? 2 = some (.ok (.bytes [1, 2, 3])) ∧ m.outcome? 3 = some (.ok .nothing) := by
    simpa only [view, Prod.mk.injEq] using hv
  have h : Chronicle .default [(Script.plain payload).backend "0"] [] told m := .rehearse .new hp
  obtain ⟨done, now, hcourse, -, hdeclined, hleft⟩ := connection_in_turn h 0
  obtain ⟨m', hs, hbad, -⟩ := hdeclined 4 _ 1 hlate rfl hfirst (by simp [hphase])
  obtain ⟨rest, hrest, -⟩ := hleft _ Link.streams 0 link _ (List.mem_of_getElem? hplaced)
  exact ⟨told, m, done, now, h, hcourse, h2, h1, ⟨m', hs, hbad⟩, rest, hrest⟩

end Contention
end GuestNet.Overlap
