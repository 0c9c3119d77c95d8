import GuestNet.Proofs.Overlap.Moves

/-! Who has a connection. While it is bound it is in its cell; whoever takes it out has it alone
until it lets go of it, and only then can it be closed. -/
namespace GuestNet.Overlap
namespace Machine

variable {W C : Type} {m m' : Machine W C} {id : CallId} {s' : Stage W C}
  {before : Option (Stage W C)} {es : List Event} {bound : Nat}

theorem Turn.elim (ht : Turn m m' id s') {k : CallId} {s : Stage W C}
    (hs : m'.calls[k]? = some s) : k = id ∧ s = s' ∨ k ≠ id ∧ m.calls[k]? = some s := by
  by_cases hk : k = id
  · subst hk
    exact .inl ⟨rfl, Option.some.inj (hs.symm.trans ht.here)⟩
  · exact .inr ⟨hk, ht.other k hk ▸ hs⟩

namespace Move

theorem size_le (hm : Move m m' before s' es) : m.cells.size ≤ m'.cells.size := by
  cases hm with
  | issued _ _ _ hn | refused _ _ hn => omega
  | begun _ hk | idle hk | looked hk => exact hk.size.ge
  | drained _ _ _ hn | took _ _ _ hn | tookNext _ _ _ hn | released _ _ _ hn | abandoned _ _ _ hn
  | closed _ _ hn => exact hn.ge

theorem bounded (hm : Move m m' before s' es) (hb : m.table.Bounded bound) :
    m'.table.Bounded bound := by
  cases hm with
  | issued hf ht =>
    rw [ht]
    exact hb.issue (hb.size_ne hf) _
  | begun _ hk | idle hk | looked hk => exact hk.table ▸ hb
  | drained _ ht => exact ht ▸ hb.drained
  | released _ ht => exact ht ▸ hb.drop _
  | refused ht | took _ ht | tookNext _ ht | abandoned _ ht | closed ht => exact ht ▸ hb

/-- Only what is issued comes into the table. -/
theorem get?_of_get? (hm : Move m m' before s' es) {h : Handle} {c : CellId}
    (hg : m'.table.get? h = some c) : m.table.get? h = some c ∨ .issued c h ∈ es := by
  cases hm with
  | issued _ ht =>
    rw [ht, HandleTable.get?_issue, Function.update_apply] at hg
    split at hg
    · rename_i he
      cases hg
      exact .inr (he ▸ List.mem_singleton.mpr rfl)
    · exact .inl hg
  | released _ ht =>
    rw [ht, HandleTable.get?_drop, Function.update_apply] at hg
    split at hg
    · cases hg
    · exact .inl hg
  | drained _ ht => simp [ht] at hg
  | begun _ hk | idle hk | looked hk => exact .inl (hk.table ▸ hg)
  | refused ht | took _ ht | tookNext _ ht | abandoned _ ht | closed ht => exact .inl (ht ▸ hg)

/-- What is issued is issued for a connection that no one had before. -/
theorem of_issued (hm : Move m m' before s' es) {c : CellId} {h : Handle}
    (he : .issued c h ∈ es) : c = m.cells.size ∧ h = m.table.free ∧
      m'.cells.size = m.cells.size + 1 ∧ m'.phase? c = some .bound := by
  cases hm with
  | issued _ _ hp hn =>
    cases List.mem_singleton.mp he
    exact ⟨rfl, rfl, hn, by rw [hp, Function.update_self]⟩
  | idle _ _ _ _ _ _ ho =>
    obtain ⟨_, _, he⟩ := ho _ he
    cases he
  | begun | looked | drained | refused | took | tookNext => cases he
  | released | abandoned | closed => simp at he

/-- A call looks up what it is to close, and does not come to want something else. -/
theorem of_wants (hm : Move m m' before s' es) {c : CellId} {h : Handle}
    (hw : s'.wants? = some (c, h)) :
    m.table.get? h = some c ∨ ∃ s, before = some s ∧ s.wants? = some (c, h) := by
  cases hm with
  | looked _ hg =>
    cases hw
    exact .inl hg
  | idle _ _ _ ho =>
    rcases ho with ho | ho
    · rw [ho] at hw
      cases hw
    · exact .inr ⟨_, rfl, ho ▸ hw⟩
  | took =>
    cases hw
    exact .inr ⟨_, rfl, rfl⟩
  | drained | closed => simp at hw
  | begun | issued | refused | tookNext | released | abandoned => cases hw

/-- A call comes to have connections to close in that it drains the table. -/
theorem of_pending (hm : Move m m' before s' es) {c : CellId} (hc : c ∈ s'.pending) :
    ((∀ h, m'.table.get? h = none) ∧ ∃ h, m.table.get? h = some c) ∨
      ∃ s, before = some s ∧ c ∈ s.pending := by
  cases hm with
  | drained hd ht =>
    rw [Stage.pending_closeNext] at hc
    exact .inl ⟨fun h => by simp [ht], (hd c).mp hc⟩
  | idle _ _ _ _ ho => exact .inr ⟨_, rfl, ho hc⟩
  | tookNext => exact .inr ⟨_, rfl, List.mem_cons_of_mem _ hc⟩
  | closed =>
    rw [Stage.pending_closeNext] at hc
    exact .inr ⟨_, rfl, hc⟩
  | begun | looked | issued | refused | took | released | abandoned => cases hc

/-- A call has what it has just taken out of its cell, or what it had. -/
theorem of_holds (hm : Move m m' before s' es) {c : CellId} (hc : s'.holds? = some c) :
    (m.phase? c = some .bound ∧ m'.phase? c = some .taken ∧
        ((∃ h, s' = .taken c h) ∨ ∃ s, before = some s ∧ c ∈ s.pending)) ∨
      ((∃ s, before = some s ∧ s.holds? = some c) ∧ m'.phase? = m.phase?) := by
  cases hm with
  | took hb _ hp =>
    cases hc
    exact .inl ⟨hb, by rw [hp, Function.update_self], .inl ⟨_, rfl⟩⟩
  | tookNext hb _ hp =>
    cases hc
    exact .inl ⟨hb, by rw [hp, Function.update_self], .inr ⟨_, rfl, List.mem_cons_self⟩⟩
  | released _ _ hp => exact .inr ⟨⟨_, rfl, hc⟩, hp⟩
  | idle _ _ ho =>
    rw [ho] at hc
    cases hc
  | drained | closed => simp at hc
  | begun | looked | issued | refused | abandoned => cases hc

/-- A connection goes from its cell to a call, and a call lets go of it. -/
theorem phase_of_phase (hm : Move m m' before s' es) {c : CellId} {p : Phase}
    (hc : m.phase? c = some p) : m'.phase? c = some p ∨ s'.holds? = some c ∨
      ∃ s, before = some s ∧ s.holds? = some c := by
  have hne : c ≠ m.cells.size := (lt_of_phase? hc).ne
  cases hm with
  | begun _ hk | idle hk | looked hk => exact .inl (hk.phase ▸ hc)
  | drained _ _ hp | released _ _ hp => exact .inl (hp ▸ hc)
  | issued _ _ hp | refused _ hp => exact .inl (by rw [hp, Function.update_of_ne hne, hc])
  | took _ _ hp | tookNext _ _ hp =>
    rw [hp, Function.update_apply]
    split
    · rename_i he
      exact .inr (.inl (he ▸ rfl))
    · exact .inl hc
  | @abandoned cell _ _ _ _ hp | @closed cell _ _ hp =>
    by_cases he : c = cell
    · exact .inr (.inr ⟨_, rfl, he ▸ rfl⟩)
    · exact .inl (by rw [hp, Function.update_of_ne he, hc])

/-- A call that gives a handle up leaves nothing under it. -/
theorem get?_of_taken {c : CellId} {h : Handle} (hm : Move m m' (some (.taken c h)) s' es) :
    m'.table.get? h = none := by
  cases hm with
  | idle _ ho => cases ho
  | released _ ht => rw [ht, HandleTable.get?_drop, Function.update_self]
  | abandoned hn ht => rw [ht, hn]

end Move

/-- Who has what, as far as a log tells of it. -/
structure Custody (log : List Event) (m : Machine W C) : Prop where
  bounded : ∃ bound, m.table.Bounded bound
  issued_of_get? : ∀ {c : CellId} {h : Handle}, m.table.get? h = some c → .issued c h ∈ log
  issued_lt : ∀ {c : CellId} {h : Handle}, .issued c h ∈ log → c < m.cells.size
  issued_unique : ∀ {c : CellId} {h h' : Handle},
    .issued c h ∈ log → .issued c h' ∈ log → h = h'
  issued_of_wants : ∀ {k : CallId} {s : Stage W C} {c : CellId} {h : Handle},
    m.calls[k]? = some s → s.wants? = some (c, h) → .issued c h ∈ log
  issued_of_pending : ∀ {k : CallId} {s : Stage W C} {c : CellId},
    m.calls[k]? = some s → c ∈ s.pending → ∃ h, .issued c h ∈ log
  taken_of_holds : ∀ {k : CallId} {s : Stage W C} {c : CellId},
    m.calls[k]? = some s → s.holds? = some c → m.phase? c = some .taken
  holder_unique : ∀ {j k : CallId} {s t : Stage W C} {c : CellId},
    m.calls[j]? = some s → s.holds? = some c → m.calls[k]? = some t → t.holds? = some c → j = k
  /-- Under a handle there is a connection in its cell, or one whose call is about to give the
  handle up. -/
  bound_or_taken : ∀ {c : CellId} {h : Handle}, m.table.get? h = some c →
    m.phase? c = some .bound ∨ ∃ k : CallId, m.calls[k]? = some (.taken c h)
  not_pending : ∀ {c : CellId} {h : Handle} {k : CallId} {s : Stage W C},
    m.table.get? h = some c → m.calls[k]? = some s → c ∉ s.pending

theorem custody_new (config : Config) (backends : List (Backend W C)) (world : W) :
    Custody [] (new config backends world) where
  bounded := ⟨_, HandleTable.bounded_new config.maxHandles⟩
  issued_of_get? hg := by simp [new] at hg
  issued_lt he := by cases he
  issued_unique he := by cases he
  issued_of_wants hs := by simp [new] at hs
  issued_of_pending hs := by simp [new] at hs
  taken_of_holds hs := by simp [new] at hs
  holder_unique hs := by simp [new] at hs
  bound_or_taken hg := by simp [new] at hg
  not_pending hg := by simp [new] at hg

namespace Custody

variable {log : List Event}

theorem issued_of_wants_move (hc : Custody log m) (ht : Turn m m' id s')
    (hm : Move m m' m.calls[id]? s' es) {k : CallId} {s : Stage W C} {c : CellId} {h : Handle}
    (hs : m'.calls[k]? = some s) (hw : s.wants? = some (c, h)) : .issued c h ∈ log := by
  rcases ht.elim hs with ⟨-, rfl⟩ | ⟨-, hs⟩
  · rcases hm.of_wants hw with hg | ⟨s, hb, hw⟩
    · exact hc.issued_of_get? hg
    · exact hc.issued_of_wants hb hw
  · exact hc.issued_of_wants hs hw

theorem issued_of_pending_move (hc : Custody log m) (ht : Turn m m' id s')
    (hm : Move m m' m.calls[id]? s' es) {k : CallId} {s : Stage W C} {c : CellId}
    (hs : m'.calls[k]? = some s) (hp : c ∈ s.pending) : ∃ h, .issued c h ∈ log := by
  rcases ht.elim hs with ⟨-, rfl⟩ | ⟨-, hs⟩
  · rcases hm.of_pending hp with ⟨-, h, hg⟩ | ⟨s, hb, hp⟩
    · exact ⟨h, hc.issued_of_get? hg⟩
    · exact hc.issued_of_pending hb hp
  · exact hc.issued_of_pending hs hp

theorem taken_of_holds_move (hc : Custody log m) (ht : Turn m m' id s')
    (hm : Move m m' m.calls[id]? s' es) {k : CallId} {s : Stage W C} {c : CellId}
    (hs : m'.calls[k]? = some s) (hh : s.holds? = some c) : m'.phase? c = some .taken := by
  rcases ht.elim hs with ⟨-, rfl⟩ | ⟨hk, hs⟩
  · rcases hm.of_holds hh with ⟨-, hp, -⟩ | ⟨⟨s, hb, hh⟩, hp⟩
    · exact hp
    · rw [hp]
      exact hc.taken_of_holds hb hh
  · have hp := hc.taken_of_holds hs hh
    rcases hm.phase_of_phase hp with hp' | hh' | ⟨t, hb, hh'⟩
    · exact hp'
    · rcases hm.of_holds hh' with ⟨-, hp', -⟩ | ⟨⟨t, hb, hh'⟩, -⟩
      · exact hp'
      · exact absurd (hc.holder_unique hs hh hb hh') hk
    · exact absurd (hc.holder_unique hs hh hb hh') hk

/-- No call has what a call comes to have. -/
theorem not_holds_move (hc : Custody log m) (hm : Move m m' m.calls[id]? s' es) {k : CallId}
    {s : Stage W C} {c : CellId} (hk : k ≠ id) (hs : m.calls[k]? = some s)
    (hh : s.holds? = some c) : s'.holds? ≠ some c := by
  intro hh'
  rcases hm.of_holds hh' with ⟨hp, -⟩ | ⟨⟨t, hb, hh'⟩, -⟩
  · cases hp.symm.trans (hc.taken_of_holds hs hh)
  · exact hk (hc.holder_unique hs hh hb hh')

/-- A connection stays in its cell until a call takes it that is to close it. -/
theorem bound_or_took (hc : Custody log m) (hm : Move m m' m.calls[id]? s' es) {c : CellId}
    (hp : m.phase? c = some .bound) : m'.phase? c = some .bound ∨ (∃ h, s' = .taken c h) ∨
      ∃ s, m.calls[id]? = some s ∧ c ∈ s.pending := by
  rcases hm.phase_of_phase hp with hp' | hh | ⟨s, hb, hh⟩
  · exact .inl hp'
  · rcases hm.of_holds hh with ⟨-, -, htook⟩ | ⟨⟨s, hb, hh⟩, -⟩
    · exact .inr htook
    · cases hp.symm.trans (hc.taken_of_holds hb hh)
  · cases hp.symm.trans (hc.taken_of_holds hb hh)

theorem bound_or_taken_move (hc : Custody log m) (ht : Turn m m' id s')
    (hm : Move m m' m.calls[id]? s' es) {c : CellId} {h : Handle}
    (hg : m'.table.get? h = some c) :
    m'.phase? c = some .bound ∨ ∃ k : CallId, m'.calls[k]? = some (.taken c h) := by
  rcases hm.get?_of_get? hg with hg' | he
  · rcases hc.bound_or_taken hg' with hp | ⟨k, hs⟩
    · rcases hc.bound_or_took hm hp with hp' | ⟨h', rfl⟩ | ⟨s, hb, hpe⟩
      · exact .inl hp'
      · have he := hc.issued_of_wants_move ht hm ht.here rfl
        exact .inr ⟨id, hc.issued_unique he (hc.issued_of_get? hg') ▸ ht.here⟩
      · exact absurd hpe (hc.not_pending hg' hb)
    · by_cases hk : k = id
      · rw [hk] at hs
        rw [hs] at hm
        cases hm.get?_of_taken.symm.trans hg
      · exact .inr ⟨k, (ht.other k hk).trans hs⟩
  · exact .inl (hm.of_issued he).2.2.2

theorem not_pending_move (hc : Custody log m) (ht : Turn m m' id s')
    (hm : Move m m' m.calls[id]? s' es) {c : CellId} {h : Handle} {k : CallId} {s : Stage W C}
    (hg : m'.table.get? h = some c) (hs : m'.calls[k]? = some s) : c ∉ s.pending := by
  intro hp
  have hold : ∃ (k : CallId) (s : Stage W C), m.calls[k]? = some s ∧ c ∈ s.pending := by
    rcases ht.elim hs with ⟨-, rfl⟩ | ⟨-, hs⟩
    · rcases hm.of_pending hp with ⟨hn, -⟩ | ⟨s, hb, hp⟩
      · cases (hn h).symm.trans hg
      · exact ⟨id, s, hb, hp⟩
    · exact ⟨k, s, hs, hp⟩
  obtain ⟨k, s, hs, hp⟩ := hold
  rcases hm.get?_of_get? hg with hg | he
  · exact hc.not_pending hg hs hp
  · obtain ⟨h', hi⟩ := hc.issued_of_pending hs hp
    exact (hc.issued_lt hi).ne (hm.of_issued he).1

/-- Every move keeps who has what. -/
theorem move (hc : Custody log m) (ht : Turn m m' id s') (hm : Move m m' m.calls[id]? s' es) :
    Custody (log ++ es) m' where
  bounded := by
    obtain ⟨bound, hb⟩ := hc.bounded
    exact ⟨bound, hm.bounded hb⟩
  issued_of_get? hg := by
    rcases hm.get?_of_get? hg with hg | he
    · exact List.mem_append_left es (hc.issued_of_get? hg)
    · exact List.mem_append_right log he
  issued_lt he := by
    rcases List.mem_append.mp he with he | he
    · exact (hc.issued_lt he).trans_le hm.size_le
    · obtain ⟨he, -, hn, -⟩ := hm.of_issued he
      rw [he, hn]
      exact Nat.lt_add_one m.cells.size
  issued_unique he he' := by
    rcases List.mem_append.mp he with he | he <;> rcases List.mem_append.mp he' with he' | he'
    · exact hc.issued_unique he he'
    · exact absurd (hm.of_issued he').1 (hc.issued_lt he).ne
    · exact absurd (hm.of_issued he).1 (hc.issued_lt he').ne
    · exact (hm.of_issued he).2.1.trans (hm.of_issued he').2.1.symm
  issued_of_wants hs hw := List.mem_append_left es (hc.issued_of_wants_move ht hm hs hw)
  issued_of_pending hs hp := by
    obtain ⟨h, he⟩ := hc.issued_of_pending_move ht hm hs hp
    exact ⟨h, List.mem_append_left es he⟩
  taken_of_holds := hc.taken_of_holds_move ht hm
  holder_unique hs hh hs' hh' := by
    rcases ht.elim hs with ⟨rfl, rfl⟩ | ⟨hk, hs⟩ <;>
      rcases ht.elim hs' with ⟨rfl, rfl⟩ | ⟨hk', hs'⟩
    · rfl
    · exact absurd hh (hc.not_holds_move hm hk' hs' hh')
    · exact absurd hh' (hc.not_holds_move hm hk hs hh)
    · exact hc.holder_unique hs hh hs' hh'
  bound_or_taken := hc.bound_or_taken_move ht hm
  not_pending := hc.not_pending_move ht hm

end Custody
end Machine

variable {W C : Type} [Connection C] {config : Config} {backends : List (Backend W C)} {world : W}
  {log : List Event} {m : Machine W C}

theorem Logged.custody (h : Logged config backends world log m) : Machine.Custody log m :=
  h.of_moves (Machine.custody_new config backends world) fun _ hc ht hm => hc.move ht hm

end GuestNet.Overlap
