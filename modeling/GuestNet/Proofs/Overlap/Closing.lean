import GuestNet.Proofs.Overlap.Shifts
import GuestNet.Scripted.Script

/-! How often connections are closed. No connection is closed twice. Every connection that is gone
from the table was closed in the end, unless some call that closes one no longer found it under its
handle. -/
namespace GuestNet.Overlap

/-- What a step that is told as an event leaves in the slot of a connection. Nothing but an
operation or a close of its own makes a connection do anything. -/
def Event.leaves {C : Type} [Connection C] (limit : Nat) (c : CellId) (s : Slot C) :
    Event → Slot C
  | performed cell op => if cell = c then (s.perform limit op).2 else s
  | closed cell => if cell = c then s.closed else s
  | _ => s

namespace Machine

variable {W C : Type} {m m' : Machine W C} {id : CallId} {s' : Stage W C}
  {before : Option (Stage W C)} {es log : List Event}

/-- Every call that closed a connection still found it under its handle. -/
def Faithful (log : List Event) : Prop :=
  ∀ (c : CellId) (h : Handle) (found : Option CellId), .released c h found ∈ log → found = some c

/-- Every connection that had a handle, and has it no more, was closed just once. -/
def AllClosed (m : Machine W C) (log : List Event) : Prop :=
  ∀ (c : CellId) (h : Handle), .issued c h ∈ log → m.table.get? h ≠ some c →
    log.count (.closed c) = 1

namespace Move

theorem of_closed (hm : Move m m' before s' es) {c : CellId} (he : .closed c ∈ es) :
    (∃ rest, before = some (.closing c rest)) ∧ es = [.closed c] ∧
      m'.phase? c = (m.phase? c).map fun _ => .released := by
  cases hm with
  | closed _ hp =>
    cases List.mem_singleton.mp he
    exact ⟨⟨_, rfl⟩, rfl, by rw [hp, Function.update_self]⟩
  | idle _ _ _ _ _ _ ho =>
    obtain ⟨_, _, he⟩ := ho _ he
    cases he
  | begun | looked | drained | refused | took | tookNext => cases he
  | issued | released | abandoned => simp at he

theorem of_released (hm : Move m m' before s' es) {c : CellId} {h : Handle}
    {found : Option CellId} (he : .released c h found ∈ es) :
    before = some (.taken c h) ∧ m.table.get? h = found := by
  cases hm with
  | released hg =>
    cases List.mem_singleton.mp he
    exact ⟨rfl, hg⟩
  | abandoned hn =>
    cases List.mem_singleton.mp he
    exact ⟨rfl, hn⟩
  | idle _ _ _ _ _ _ ho =>
    obtain ⟨_, _, he⟩ := ho _ he
    cases he
  | begun | looked | drained | refused | took | tookNext => cases he
  | issued | closed => simp at he

/-- How a connection got where it is. -/
theorem phase_before (hm : Move m m' before s' es) {c : CellId} {p : Phase}
    (hc : m'.phase? c = some p) : m.phase? c = some p ∨
      (p = .bound ∧ ∃ h, es = [.issued c h] ∧ m'.table.get? h = some c) ∨
      (p = .taken ∧ s'.holds? = some c) ∨
      (p = .released ∧
        (c = m.cells.size ∧ es = [] ∨ es = [.closed c] ∨ ∃ h, es = [.released c h none])) := by
  cases hm with
  | begun _ hk | idle hk | looked hk => exact .inl (hk.phase ▸ hc)
  | drained _ _ hp | released _ _ hp => exact .inl (hp ▸ hc)
  | issued _ ht hp =>
    rw [hp, Function.update_apply] at hc
    split at hc
    · rename_i he
      subst he
      cases hc
      have hg : m'.table.get? m.table.free = some m.cells.size := by
        rw [ht, HandleTable.get?_issue, Function.update_self]
      exact .inr (.inl ⟨rfl, _, rfl, hg⟩)
    · exact .inl hc
  | refused _ hp =>
    rw [hp, Function.update_apply] at hc
    split at hc
    · rename_i he
      cases hc
      exact .inr (.inr (.inr ⟨rfl, .inl ⟨he, rfl⟩⟩))
    · exact .inl hc
  | took _ _ hp | tookNext _ _ hp =>
    rw [hp, Function.update_apply] at hc
    split at hc
    · rename_i he
      cases hc
      exact .inr (.inr (.inl ⟨rfl, he ▸ rfl⟩))
    · exact .inl hc
  | abandoned _ _ hp =>
    rw [hp, Function.update_apply] at hc
    split at hc
    · rename_i he
      subst he
      obtain ⟨-, -, rfl⟩ := Option.map_eq_some_iff.mp hc
      exact .inr (.inr (.inr ⟨rfl, .inr (.inr ⟨_, rfl⟩)⟩))
    · exact .inl hc
  | closed _ hp =>
    rw [hp, Function.update_apply] at hc
    split at hc
    · rename_i he
      obtain ⟨-, -, rfl⟩ := Option.map_eq_some_iff.mp hc
      exact .inr (.inr (.inr ⟨rfl, .inr (.inl (he ▸ rfl))⟩))
    · exact .inl hc

/-- A connection that leaves the table is drained, or given up by a call under whose handle it is. -/
theorem get?_after (hm : Move m m' before s' es) (hf : ∃ bound, m.table.Bounded bound)
    {c : CellId} {h : Handle} (hg : m.table.get? h = some c) :
    m'.table.get? h = some c ∨ c ∈ s'.pending ∨
      ∃ c', before = some (.taken c' h) ∧ es = [.released c' h (some c)] := by
  cases hm with
  | begun _ hk | idle hk | looked hk => exact .inl (hk.table ▸ hg)
  | drained hd => exact .inr (.inl ((Stage.pending_closeNext _).symm ▸ (hd c).mpr ⟨h, hg⟩))
  | issued hr ht =>
    obtain ⟨bound, hb⟩ := hf
    have hn := hb.get?_free (hb.size_ne hr)
    have hne : h ≠ m.table.free := by
      rintro rfl
      cases hn.symm.trans hg
    exact .inl (by rw [ht, HandleTable.get?_issue, Function.update_of_ne hne, hg])
  | refused ht | took _ ht | tookNext _ ht | abandoned _ ht | closed ht => exact .inl (ht ▸ hg)
  | @released c' found h' hg' ht =>
    by_cases he : h = h'
    · subst he
      cases hg.symm.trans hg'
      exact .inr (.inr ⟨c', rfl, rfl⟩)
    · exact .inl (by rw [ht, HandleTable.get?_drop, Function.update_of_ne he, hg])

/-- A call that is to close a connection in its cell takes it out before it goes on. -/
theorem pending_after (hm : Move m m' before s' es) {s : Stage W C} (hb : before = some s)
    {c : CellId} (hc : c ∈ s.pending) (hp : m'.phase? c = some .bound) : c ∈ s'.pending := by
  cases hm with
  | idle hk _ _ _ _ ho =>
    cases hb
    by_contra hn
    exact ho c hc hn (hk.phase ▸ hp)
  | tookNext _ _ hp' =>
    cases hb
    rw [hp', Function.update_apply] at hp
    split at hp
    · cases hp
    · rename_i hne
      exact (List.mem_cons.mp hc).resolve_left hne
  | closed =>
    cases hb
    rwa [Stage.pending_closeNext]
  | begun => cases hb
  | looked | drained | issued | refused | took | released | abandoned =>
    cases hb
    cases hc

/-- A call has a connection until it lets go of it. -/
theorem holds_after (hm : Move m m' before s' es) {s : Stage W C} (hb : before = some s)
    {c : CellId} (hc : s.holds? = some c) (hp : m'.phase? c = some .taken) :
    s'.holds? = some c := by
  cases hm with
  | released =>
    cases hb
    exact hc
  | abandoned _ _ hp' | closed _ hp' =>
    cases hb
    cases hc
    rw [hp', Function.update_self] at hp
    obtain ⟨-, -, hp⟩ := Option.map_eq_some_iff.mp hp
    cases hp
  | idle _ ho =>
    cases hb
    cases ho.symm.trans hc
  | begun => cases hb
  | looked | drained | issued | refused | took | tookNext =>
    cases hb
    cases hc

end Move

/-- What became of every connection, as far as a log tells of it. -/
structure Closing (log : List Event) (m : Machine W C) : Prop where
  count_le : ∀ c : CellId, log.count (.closed c) ≤ 1
  count_eq_zero : ∀ {c : CellId}, m.phase? c ≠ some .released → log.count (.closed c) = 0
  of_bound : ∀ {c : CellId} {h : Handle}, .issued c h ∈ log → m.phase? c = some .bound →
    m.table.get? h = some c ∨
      (∃ (k : CallId) (s : Stage W C), m.calls[k]? = some s ∧ c ∈ s.pending) ∨
        ∃ c' h', c' ≠ c ∧ .released c' h' (some c) ∈ log
  of_taken : ∀ {c : CellId}, m.phase? c = some .taken →
    ∃ (k : CallId) (s : Stage W C), m.calls[k]? = some s ∧ s.holds? = some c
  of_released : ∀ {c : CellId} {h : Handle}, .issued c h ∈ log → m.phase? c = some .released →
    log.count (.closed c) = 1 ∨ ∃ h', .released c h' none ∈ log

theorem closing_new (config : Config) (backends : List (Backend W C)) (world : W) :
    Closing [] (new config backends world) where
  count_le c := by simp
  count_eq_zero _ := rfl
  of_bound he := by cases he
  of_taken hp := by simp [phase?, new] at hp
  of_released he := by cases he

namespace Closing

/-- A connection is closed while a call has it. -/
theorem count_append (hc : Custody log m) (hl : Closing log m)
    (hm : Move m m' m.calls[id]? s' es) (c : CellId) :
    (log ++ es).count (.closed c) = log.count (.closed c) ∨
      (m'.phase? c = some .released ∧ (log ++ es).count (.closed c) = 1) := by
  rw [List.count_append]
  by_cases he : .closed c ∈ es
  · obtain ⟨⟨rest, hb⟩, hes, hp⟩ := hm.of_closed he
    have ht := hc.taken_of_holds hb rfl
    have hz := hl.count_eq_zero (c := c) (by simp [ht])
    exact .inr ⟨by rw [hp, ht, Option.map_some], by rw [hz, hes, List.count_singleton_self]⟩
  · exact .inl (by rw [List.count_eq_zero_of_not_mem he, Nat.add_zero])

/-- What was let go of stays so. -/
theorem phase_of_released (hc : Custody log m) (hm : Move m m' m.calls[id]? s' es) {c : CellId}
    (hp : m.phase? c = some .released) : m'.phase? c = some .released := by
  rcases hm.phase_of_phase hp with hp' | hh | ⟨s, hb, hh⟩
  · exact hp'
  · rcases hm.of_holds hh with ⟨hb, -⟩ | ⟨⟨s, hb, hh⟩, -⟩
    · cases hp.symm.trans hb
    · cases hp.symm.trans (hc.taken_of_holds hb hh)
  · cases hp.symm.trans (hc.taken_of_holds hb hh)

/-- What was somewhere before was not issued just now. -/
theorem issued_before (hm : Move m m' before s' es) {c : CellId} {h : Handle} {p : Phase}
    (he : .issued c h ∈ log ++ es) (hp : m.phase? c = some p) : .issued c h ∈ log :=
  (List.mem_append.mp he).resolve_right fun he =>
    (lt_of_phase? hp).ne (hm.of_issued he).1

theorem of_bound_move (hc : Custody log m) (hl : Closing log m) (ht : Turn m m' id s')
    (hm : Move m m' m.calls[id]? s' es) {c : CellId} {h : Handle}
    (he : .issued c h ∈ log ++ es) (hp : m'.phase? c = some .bound) :
    m'.table.get? h = some c ∨
      (∃ (k : CallId) (s : Stage W C), m'.calls[k]? = some s ∧ c ∈ s.pending) ∨
        ∃ c' h', c' ≠ c ∧ .released c' h' (some c) ∈ log ++ es := by
  rcases hm.phase_before hp with hp' | ⟨-, h', hes, hg⟩ | ⟨hp', -⟩ | ⟨hp', -⟩
  · have he := issued_before hm he hp'
    rcases hl.of_bound he hp' with hg | ⟨k, s, hs, hpe⟩ | ⟨c', h', hne, hr⟩
    · rcases hm.get?_after hc.bounded hg with hg' | hpe | ⟨c', hb, hes⟩
      · exact .inl hg'
      · exact .inr (.inl ⟨id, s', ht.here, hpe⟩)
      · have hne : c' ≠ c := by
          rintro rfl
          cases hp'.symm.trans (hc.taken_of_holds hb rfl)
        exact .inr (.inr ⟨c', h, hne, by simp [hes]⟩)
    · by_cases hk : k = id
      · subst hk
        exact .inr (.inl ⟨k, s', ht.here, hm.pending_after hs hpe hp⟩)
      · exact .inr (.inl ⟨k, s, (ht.other k hk).trans hs, hpe⟩)
    · exact .inr (.inr ⟨c', h', hne, List.mem_append_left es hr⟩)
  · have hi := (hc.move ht hm).issued_unique he (by simp [hes] : .issued c h' ∈ log ++ es)
    exact .inl (hi ▸ hg)
  · cases hp'
  · cases hp'

theorem of_taken_move (hl : Closing log m) (ht : Turn m m' id s')
    (hm : Move m m' m.calls[id]? s' es) {c : CellId} (hp : m'.phase? c = some .taken) :
    ∃ (k : CallId) (s : Stage W C), m'.calls[k]? = some s ∧ s.holds? = some c := by
  rcases hm.phase_before hp with hp' | ⟨hp', -⟩ | ⟨-, hh⟩ | ⟨hp', -⟩
  · obtain ⟨k, s, hs, hh⟩ := hl.of_taken hp'
    by_cases hk : k = id
    · subst hk
      exact ⟨k, s', ht.here, hm.holds_after hs hh hp⟩
    · exact ⟨k, s, (ht.other k hk).trans hs, hh⟩
  · cases hp'
  · exact ⟨id, s', ht.here, hh⟩
  · cases hp'

theorem of_released_move (hc : Custody log m) (hl : Closing log m)
    (hm : Move m m' m.calls[id]? s' es) {c : CellId} {h : Handle}
    (he : .issued c h ∈ log ++ es) (hp : m'.phase? c = some .released) :
    (log ++ es).count (.closed c) = 1 ∨ ∃ h', .released c h' none ∈ log ++ es := by
  rcases hl.count_append hc hm c with hn | ⟨-, hn⟩
  · rcases hm.phase_before hp with hp' | ⟨hp', -⟩ | ⟨hp', -⟩ | ⟨-, ⟨hs, hes⟩ | hes | ⟨h', hes⟩⟩
    · rcases hl.of_released (issued_before hm he hp') hp' with h1 | ⟨h', hr⟩
      · exact .inl (hn.trans h1)
      · exact .inr ⟨h', List.mem_append_left es hr⟩
    · cases hp'
    · cases hp'
    · rw [hes, List.append_nil] at he
      exact absurd hs (hc.issued_lt he).ne
    · rw [hes, List.count_append, List.count_singleton_self] at hn
      exact absurd hn (Nat.succ_ne_self _)
    · exact .inr ⟨h', by simp [hes]⟩
  · exact .inl hn

theorem move (hc : Custody log m) (hl : Closing log m) (ht : Turn m m' id s')
    (hm : Move m m' m.calls[id]? s' es) : Closing (log ++ es) m' where
  count_le c := by
    rcases hl.count_append hc hm c with hn | ⟨-, hn⟩
    · exact hn.trans_le (hl.count_le c)
    · exact hn.le
  count_eq_zero {c} hp := by
    rcases hl.count_append hc hm c with hn | ⟨hp', -⟩
    · exact hn.trans (hl.count_eq_zero fun hr => hp (phase_of_released hc hm hr))
    · exact absurd hp' hp
  of_bound := hl.of_bound_move hc ht hm
  of_taken := hl.of_taken_move ht hm
  of_released := hl.of_released_move hc hm

end Closing

/-- A connection that no call will close, or one for which its call will make another one so. -/
structure Lost (log : List Event) (m : Machine W C) (c : CellId) (h : Handle) : Prop where
  issued : .issued c h ∈ log
  gone : m.table.get? h ≠ some c
  unclosed : log.count (.closed c) = 0
  place : m.phase? c = some .released ∨
    (m.phase? c = some .bound ∧
      ∀ (k : CallId) (s : Stage W C), m.calls[k]? = some s → c ∉ s.pending) ∨
        ∃ k : CallId, m.calls[k]? = some (.taken c h)

theorem gone_move (hc : Custody log m) (hm : Move m m' m.calls[id]? s' es) {c : CellId}
    {h : Handle} (hi : .issued c h ∈ log) (hg : m.table.get? h ≠ some c) :
    m'.table.get? h ≠ some c := by
  intro hg'
  rcases hm.get?_of_get? hg' with hg' | he
  · exact hg hg'
  · exact (hc.issued_lt hi).ne (hm.of_issued he).1

/-- A call that does not find its connection under the handle leaves that one unclosed if it finds
nothing, and else the one that it finds. -/
theorem exists_lost_of_taken (hc : Custody log m) (hl : Closing log m) (ht : Turn m m' id s')
    (hm : Move m m' m.calls[id]? s' es) {c : CellId} {h : Handle}
    (hs : m.calls[id]? = some (.taken c h)) (hg : m.table.get? h ≠ some c) :
    ∃ c' h', Lost (log ++ es) m' c' h' := by
  have hi := hc.issued_of_wants hs rfl
  have hp := hc.taken_of_holds hs rfl
  have hgone := gone_move hc hm hi hg
  rw [hs] at hm
  cases hm with
  | idle _ ho => cases ho
  | abandoned hn _ hp' =>
    refine ⟨c, h, List.mem_append_left _ hi, hgone, ?_, .inl ?_⟩
    · simp [hl.count_eq_zero (c := c) (by simp [hp])]
    · rw [hp', Function.update_self, hp, Option.map_some]
  | @released _ found _ hf ht' hp' =>
    have hne : found ≠ c := fun he => hg (he ▸ hf)
    have hplace : m.phase? found = some .bound ∨
        ∃ k : CallId, k ≠ id ∧ m.calls[k]? = some (.taken found h) := by
      rcases hc.bound_or_taken hf with hb | ⟨k, hk⟩
      · exact .inl hb
      · refine .inr ⟨k, ?_, hk⟩
        rintro rfl
        cases hs.symm.trans hk
        exact hne rfl
    have hu : m.phase? found ≠ some .released := by
      rcases hplace with hb | ⟨k, -, hk⟩
      · simp [hb]
      · simp [hc.taken_of_holds hk rfl]
    refine ⟨found, h, List.mem_append_left _ (hc.issued_of_get? hf), ?_, ?_, .inr ?_⟩
    · simp [ht', HandleTable.get?_drop]
    · simp [hl.count_eq_zero hu]
    · rcases hplace with hb | ⟨k, hk, hks⟩
      · refine .inl ⟨hp' ▸ hb, fun k s hks hpe => ?_⟩
        rcases ht.elim hks with ⟨-, rfl⟩ | ⟨-, hks⟩
        · cases hpe
        · exact hc.not_pending hf hks hpe
      · exact .inr ⟨k, (ht.other k hk).trans hks⟩

namespace Lost

theorem unclosed_move (hc : Custody log m) (hm : Move m m' m.calls[id]? s' es) {c : CellId}
    {h : Handle} (hd : Lost log m c h) : (log ++ es).count (.closed c) = 0 := by
  have hn : .closed c ∉ es := by
    intro he
    obtain ⟨⟨rest, hs⟩, -⟩ := hm.of_closed he
    have hp := hc.taken_of_holds hs rfl
    rcases hd.place with hr | ⟨hb, -⟩ | ⟨k, hk⟩
    · cases hp.symm.trans hr
    · cases hp.symm.trans hb
    · cases hc.holder_unique hs rfl hk rfl
      cases hs.symm.trans hk
  rw [List.count_append, hd.unclosed, List.count_eq_zero_of_not_mem hn]

theorem not_pending_move (hc : Custody log m) (ht : Turn m m' id s')
    (hm : Move m m' m.calls[id]? s' es) {c : CellId} {h : Handle} (hd : Lost log m c h)
    (hn : ∀ (k : CallId) (s : Stage W C), m.calls[k]? = some s → c ∉ s.pending) (k : CallId)
    (s : Stage W C) (hs : m'.calls[k]? = some s) : c ∉ s.pending := by
  intro hp
  rcases ht.elim hs with ⟨-, rfl⟩ | ⟨-, hs⟩
  · rcases hm.of_pending hp with ⟨-, h', hg⟩ | ⟨s, hb, hp⟩
    · have he := hc.issued_unique hd.issued (hc.issued_of_get? hg)
      exact hd.gone (he ▸ hg)
    · exact hn id s hb hp
  · exact hn k s hs hp

/-- Once a connection is lost, there always is one that is. -/
theorem move (hc : Custody log m) (hl : Closing log m) (ht : Turn m m' id s')
    (hm : Move m m' m.calls[id]? s' es) {c : CellId} {h : Handle} (hd : Lost log m c h) :
    ∃ c' h', Lost (log ++ es) m' c' h' := by
  have hstay (hp : m'.phase? c = some .released ∨ (m'.phase? c = some .bound ∧
      ∀ (k : CallId) (s : Stage W C), m'.calls[k]? = some s → c ∉ s.pending) ∨
        ∃ k : CallId, m'.calls[k]? = some (.taken c h)) : ∃ c' h', Lost (log ++ es) m' c' h' :=
    ⟨c, h, List.mem_append_left es hd.issued, gone_move hc hm hd.issued hd.gone,
      hd.unclosed_move hc hm, hp⟩
  rcases hd.place with hr | ⟨hb, hn⟩ | ⟨k, hk⟩
  · exact hstay (.inl (Closing.phase_of_released hc hm hr))
  · rcases hc.bound_or_took hm hb with hb' | ⟨h', rfl⟩ | ⟨s, hs, hp⟩
    · exact hstay (.inr (.inl ⟨hb', hd.not_pending_move hc ht hm hn⟩))
    · have hi := hc.issued_of_wants_move ht hm ht.here rfl
      cases hc.issued_unique hi hd.issued
      exact hstay (.inr (.inr ⟨id, ht.here⟩))
    · exact absurd hp (hn id s hs)
  · by_cases hid : k = id
    · subst hid
      exact exists_lost_of_taken hc hl ht hm hk hd.gone
    · exact hstay (.inr (.inr ⟨k, (ht.other k hid).trans hk⟩))

end Lost

/-- A call that closes a connection finds it under its handle, or some connection is lost. -/
theorem exists_lost_move (hc : Custody log m) (hl : Closing log m)
    (hf : Faithful log ∨ ∃ c h, Lost log m c h) (ht : Turn m m' id s')
    (hm : Move m m' m.calls[id]? s' es) :
    Faithful (log ++ es) ∨ ∃ c h, Lost (log ++ es) m' c h := by
  rcases hf with hf | ⟨c, h, hd⟩
  · refine or_iff_not_imp_right.mpr fun hn c h found he => ?_
    rcases List.mem_append.mp he with he | he
    · exact hf c h found he
    · obtain ⟨hs, rfl⟩ := hm.of_released he
      by_contra hne
      exact hn (exists_lost_of_taken hc hl ht hm hs hne)
  · exact .inr (hd.move hc hl ht hm)

/-- A call that has finished neither has anything nor is to close anything. -/
theorem Quiet.nothing (hq : m.Quiet) {k : CallId} {s : Stage W C} (hs : m.calls[k]? = some s) :
    s.holds? = none ∧ s.pending = [] := by
  obtain ⟨outcome, rfl⟩ := hq k s hs
  exact ⟨rfl, rfl⟩

theorem Quiet.count_closed (hq : m.Quiet) (hc : Custody log m) (hl : Closing log m)
    (hf : Faithful log) {c : CellId} {h : Handle} (hi : .issued c h ∈ log)
    (hg : m.table.get? h ≠ some c) : log.count (.closed c) = 1 := by
  obtain ⟨p, hp⟩ : ∃ p, m.phase? c = some p := by
    simp [phase?, hc.issued_lt hi]
  cases p with
  | bound =>
    rcases hl.of_bound hi hp with hg' | ⟨k, s, hs, hpe⟩ | ⟨c', h', hne, hr⟩
    · exact absurd hg' hg
    · simp [(hq.nothing hs).2] at hpe
    · exact absurd (Option.some.inj (hf c' h' _ hr)).symm hne
  | taken =>
    obtain ⟨k, s, hs, hh⟩ := hl.of_taken hp
    cases (hq.nothing hs).1.symm.trans hh
  | released =>
    rcases hl.of_released hi hp with h1 | ⟨h', hr⟩
    · exact h1
    · cases hf c h' none hr

section

variable [Connection C] {limit : Nat} {c : CellId} {slot : Slot C} {s : Stage W C}

theorem leaves_of_work?_eq_none (hb : m.calls[id]? = some s) (hn : s.work? = none) :
    (m.event? id).elim slot (Event.leaves limit c slot) = slot := by
  rw [event?, hb, Option.bind_some]
  cases s with
  | connected =>
    dsimp only
    split <;> rfl
  | performing | closing => cases hn
  | _ => rfl

/-- Every step is told by what it does to the connections that there are. -/
theorem slot?_of_step (hs : m.step id = some m') (hc : m.slot? c = some slot) : m'.slot? c =
    some ((m.event? id).elim slot (Event.leaves m.setup.config.maxTransfer c slot)) := by
  obtain ⟨s, hb, -⟩ := Option.bind_eq_some_iff.mp hs
  obtain ⟨s', -, hsh, -⟩ := shifts_step hb hs
  obtain ⟨d, hd, -⟩ := Option.map_eq_some_iff.mp hc
  have hlt : c < m.cells.size := (Array.getElem?_eq_some_iff.mp hd).1
  have hidle (hn : s.work? = none) (he : m'.slot? c = m.slot? c) : m'.slot? c =
      some ((m.event? id).elim slot (Event.leaves m.setup.config.maxTransfer c slot)) := by
    rw [he, hc, leaves_of_work?_eq_none hb hn]
  have hpush {e : Cell C} (he : m'.cells = m.cells.push e) : m'.slot? c = m.slot? c := by
    rw [slot?, slot?, he, Array.getElem?_push, if_neg hlt.ne]
  cases hsh with
  | away he hn =>
    refine hidle (Option.eq_none_iff_forall_ne_some.mpr fun w hw => ?_) (by rw [slot?, slot?, he])
    cases hn.symm.trans (Stage.cell?_of_work? (w := w.2) hw)
  | issued _ _ he | refused _ _ he => exact hidle rfl (hpush he)
  | queued he => exact hidle rfl (by rw [he.slot?_eq fun _ => rfl])
  | connected he | begun he | released he => exact hidle rfl (by rw [slot?, slot?, he])
  | declined _ _ he => exact hidle rfl (by rw [he.slot?_eq fun _ => rfl])
  | took _ _ he | tookNext _ _ he => exact hidle rfl (by rw [he.slot?_eq fun _ => rfl])
  | abandoned he => exact hidle rfl (by rw [he.slot?_eq fun _ => rfl])
  | @performed cell op slot' hslot he =>
    simp only [event?, hb, Option.bind_some, Option.elim_some, Event.leaves]
    split
    · rename_i hcell
      subst hcell
      cases hc.symm.trans hslot
      rw [slot?, he cell, if_pos rfl, hd]
      rfl
    · rename_i hcell
      rw [he.slot?_of_ne (Ne.symm hcell), hc]
  | @closed cell rest slot' hslot he =>
    simp only [event?, hb, Option.bind_some, Option.elim_some, Event.leaves]
    split
    · rename_i hcell
      subst hcell
      cases hc.symm.trans hslot
      rw [slot?, he cell, if_pos rfl, hd]
      rfl
    · rename_i hcell
      rw [he.slot?_of_ne (Ne.symm hcell), hc]

end

end Machine

variable {W C : Type} [Connection C] {config : Config} {backends : List (Backend W C)} {world : W}
  {log : List Event} {m : Machine W C}

theorem Logged.closing (h : Logged config backends world log m) : Machine.Closing log m :=
  h.of_moves (Machine.closing_new config backends world) fun h hl ht hm =>
    hl.move h.custody ht hm

theorem Logged.faithful_or_lost (h : Logged config backends world log m) :
    Machine.Faithful log ∨ ∃ c h, Machine.Lost log m c h :=
  h.of_moves (P := fun log m => Machine.Faithful log ∨ ∃ c h, Machine.Lost log m c h)
    (.inl fun _ _ _ he => by cases he)
    fun h hd ht hm => Machine.exists_lost_move h.custody h.closing hd ht hm

/-- No connection is closed twice. When no call is in flight, all connections that lost their
handles were closed just if every call that closed one still found it under its handle. A step
closes a connection just if it is told as its close. -/
theorem closed_once_iff_faithful (h : Logged config backends world log m) :
    (∀ c : CellId, log.count (.closed c) ≤ 1) ∧
      (m.Quiet → (m.AllClosed log ↔ Machine.Faithful log)) ∧
      ∀ (id : CallId) (m' : Machine W C), m.step id = some m' →
        ∀ (c : CellId) (slot : Slot C), m.slot? c = some slot → m'.slot? c =
          some ((m.event? id).elim slot (Event.leaves m.setup.config.maxTransfer c slot)) := by
  refine ⟨h.closing.count_le, fun hq => ⟨fun ha => ?_, fun hf c k hi hg => ?_⟩, ?_⟩
  · refine h.faithful_or_lost.resolve_right ?_
    rintro ⟨c, k, hd⟩
    have h1 := ha c k hd.issued hd.gone
    rw [hd.unclosed] at h1
    cases h1
  · exact hq.count_closed h.custody h.closing hf hi hg
  · exact fun id m' hs c slot hc => Machine.slot?_of_step hs hc

namespace Race

open Scripted

def script : Script where
  schemes := ["tcp"]
  kind := .stream
  payload := []
  readLimit := none
  writeLimit := none
  connectFaults := []
  readFaults := []
  writeFaults := []
  closeFaults := []
  response := none
  held := []

def start : Machine Tallies Link := .new .default [script.backend "0"] []

def opened : List Act := [.begin (.openTarget "a" ""), .step 0, .step 0, .step 0]

/-- The connection is closed while nothing else happens. -/
def closeAlone : List Act := .begin (.close 1) :: List.replicate 5 (.step 1)

/-- All connections are closed while the close of one has found it and not taken it yet. -/
def closeBoth : List Act :=
  [.begin (.close 1), .step 1, .begin .closeAll, .step 2, .step 1, .step 1, .step 1, .step 2, .step 2]

def view (r : List Event × Machine Tallies Link) : List Event × Bool × Option CellId :=
  (r.1, r.2.calls.toList.all fun s => s.outcome?.isSome, r.2.table.get? 1)

theorem view_closeAlone : (play (opened ++ closeAlone) [] start).map view =
    some ([.issued 0 1, .released 0 1 (some 0), .closed 0], true, none) := by
  rfl

theorem view_closeBoth : (play (opened ++ closeBoth) [] start).map view =
    some ([.issued 0 1, .released 0 1 none], true, none) := by
  rfl

theorem closed_once_after_closeAlone : ∃ (log : List Event) (m : Machine Tallies Link),
    Logged .default [script.backend "0"] [] log m ∧ m.Quiet ∧ m.AllClosed log ∧
      .issued 0 1 ∈ log ∧ m.table.get? 1 = none := by
  obtain ⟨⟨log, m⟩, hp, hv⟩ := Option.map_eq_some_iff.mp view_closeAlone
  obtain ⟨rfl, hq, hg⟩ : log = _ ∧ (m.calls.toList.all fun s => s.outcome?.isSome) = true ∧
      m.table.get? 1 = none := by simpa [view] using hv
  have h : Logged .default [script.backend "0"] [] _ m := .play .new hp
  have hq := Machine.quiet_iff.mpr hq
  refine ⟨_, m, h, hq, ((closed_once_iff_faithful h).2.1 hq).mpr ?_, by simp, hg⟩
  intro c k found he
  obtain ⟨rfl, -, rfl⟩ : c = 0 ∧ k = 1 ∧ found = some 0 := by simpa using he
  rfl

/-- A connection stays open for good that is gone from the table. -/
theorem not_closed_after_closeBoth : ∃ (log : List Event) (m : Machine Tallies Link),
    Logged .default [script.backend "0"] [] log m ∧ m.Quiet ∧ ¬ m.AllClosed log := by
  obtain ⟨⟨log, m⟩, hp, hv⟩ := Option.map_eq_some_iff.mp view_closeBoth
  obtain ⟨rfl, hq, hg⟩ : log = _ ∧ (m.calls.toList.all fun s => s.outcome?.isSome) = true ∧
      m.table.get? 1 = none := by simpa [view] using hv
  refine ⟨_, m, .play .new hp, Machine.quiet_iff.mpr hq, fun ha => ?_⟩
  have h1 := ha 0 1 (by simp) (by simp [hg])
  cases h1

end Race
end GuestNet.Overlap
