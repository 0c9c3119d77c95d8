import GuestNet.Proofs.Guest.DeadHandles

/-! A handle between its open and its close. An open binds it to a connection, after that there is
nothing done to the connection but what is asked under the handle, and from the close on the handle
is dead. -/
namespace GuestNet.Driver

variable {W C : Type} [Connection C] {d : Driver W C} {bound : Nat} {h : Handle} {s s' : Slot C}

/-- The handle that an open returns is bound to the connection that was made for it. -/
theorem get?_openTarget {b : Backend W C} {t : Target} {raw options : String}
    (hb : d.setup.backendFor d.table raw = .ok (t, b))
    (ho : (call (.openTarget raw options) d).1 = .ok (.handle h)) :
    ∃ c, (b.connect t options d.setup.config d.world).1 = .ok c ∧
      (call (.openTarget raw options) d).2.table.get? h = some (.ofConnection c) := by
  rcases hc : b.connect t options d.setup.config d.world with ⟨e | c, w⟩
  · simp only [call, openTarget, hb, hc] at ho
    cases ho
  · refine ⟨c, rfl, ?_⟩
    by_cases hf : d.table.isFull = true
    · simp only [call, openTarget, hb, hc, bind, HandleTable.allocate, if_pos hf] at ho
      cases ho
    · simp only [call, openTarget, hb, hc, bind, HandleTable.allocate, if_neg hf] at ho ⊢
      cases ho
      change (d.table.issue (.ofConnection c)).get? d.table.free = _
      rw [HandleTable.get?_issue, Function.update_self]

/-- Where a handle stays live, a call does at most one operation to its connection. -/
theorem Effect.kept {c : Call} {o : Outcome} {t : HandleTable (Slot C)} (he : Effect d c o t)
    (hb : d.table.Bounded bound) (hs : d.table.get? h = some s) (ht : t.get? h = some s') :
    s' = s ∨ ∃ op, s' = (s.perform d.setup.config.maxTransfer op).2 := by
  by_cases hn : c.Ends h
  · rcases hn with rfl | rfl
    · cases he with
      | refused hr => cases (hr h rfl).symm.trans hs
      | closed =>
        rw [HandleTable.get?_drop, Function.update_self] at ht
        cases ht
    · cases he with
      | refused =>
        cases hs.symm.trans ht
        exact .inl rfl
      | drained =>
        rw [HandleTable.get?_drained] at ht
        cases ht
  · rw [he.get?_eq hb hs hn] at ht
    cases hop : c.operation? h with
    | none =>
      rw [hop] at ht
      cases ht
      exact .inl rfl
    | some op =>
      rw [hop] at ht
      cases ht
      exact .inr ⟨op, rfl⟩

namespace Entry

theorem issued?_of_ends {e : Entry} (he : e.Ends h) : e.issued? = none := by
  unfold Ends at he
  split at he
  · rfl
  · rfl
  · rfl
  · exact he.elim

/-- Only a close ends a handle. -/
theorem not_ends_host {c : Call} (hc : ¬ c.Ends h) (o : Outcome) : ¬ (host c o).Ends h := by
  unfold Ends
  split
  · rename_i he
    cases he
    exact fun hk => hc (.inl (congrArg Call.close hk))
  · rename_i he
    cases he
    exact absurd (.inr rfl) hc
  · rename_i he
    cases he
  · exact id

theorem not_ends_guest_of_ne {c : GuestCall} (hc : c ≠ .close h) (answer : GuestAnswer)
    (memory : Memory) : ¬ (guest c answer memory).Ends h := by
  unfold Ends
  split
  · rename_i he
    cases he
  · rename_i he
    cases he
  · rename_i he
    cases he
    exact fun hk => hc (congrArg GuestCall.close hk)
  · exact id

end Entry

namespace Act

theorem get?_take (hb : d.table.Bounded bound) (hs : d.table.get? h = some s) {a : Act}
    (ha : ¬ (a.take d).1.Ends h) : ∃ s', (a.take d).2.table.get? h = some s' ∧
      (s' = s ∨ ∃ op, s' = (s.perform d.setup.config.maxTransfer op).2) := by
  have hlive : h ∈ (a.take d).2.live :=
    ((accounts_take hb a).1.live h).mpr (.inr ⟨mem_live_iff.mpr ⟨s, hs⟩, ha⟩)
  obtain ⟨s', hs'⟩ := mem_live_iff.mp hlive
  refine ⟨s', hs', ?_⟩
  rcases a.take_eq_or_call d with hd | ⟨c, hd⟩
  · rw [hd] at hs'
    cases hs.symm.trans hs'
    exact .inl rfl
  · rw [hd] at hs'
    exact (effect_call c d).kept hb hs hs'

/-- What every operation keeps of a connection stays so until the handle is closed. -/
theorem get?_takeAll {P : Slot C → Prop} (hP : ∀ s limit op, P s → P (s.perform limit op).2)
    (hb : d.table.Bounded bound) (hs : d.table.get? h = some s) (hp : P s) {acts : List Act}
    (hacts : ∀ e ∈ (takeAll acts d).1, ¬ e.Ends h) :
    ∃ s', (takeAll acts d).2.table.get? h = some s' ∧ P s' := by
  induction acts generalizing d s with
  | nil => exact ⟨s, hs, hp⟩
  | cons a rest ih =>
    obtain ⟨s', hs', hkept⟩ := get?_take hb hs (hacts _ List.mem_cons_self)
    refine ih (accounts_take hb a).2 hs' ?_ fun e he => hacts e (List.mem_cons_of_mem _ he)
    rcases hkept with rfl | ⟨op, rfl⟩
    · exact hp
    · exact hP s _ op hp

/-- The act is no close of the handle. -/
def Leaves (h : Handle) : Act → Prop
  | host c => ¬ c.Ends h
  | guest _ c => c ≠ .close h

instance (h : Handle) (a : Act) : Decidable (a.Leaves h) :=
  match a with
  | host c => inferInstanceAs (Decidable (¬ c.Ends h))
  | guest _ c => inferInstanceAs (Decidable (c ≠ .close h))

theorem not_ends_take {a : Act} (ha : a.Leaves h) (d : Driver W C) : ¬ (a.take d).1.Ends h := by
  cases a with
  | host c => exact Entry.not_ends_host ha _
  | guest g c => exact Entry.not_ends_guest_of_ne ha _ _

theorem not_ends_takeAll {acts : List Act} (hacts : ∀ a ∈ acts, a.Leaves h) (d : Driver W C) :
    ∀ e ∈ (takeAll acts d).1, ¬ e.Ends h := by
  induction acts generalizing d with
  | nil => exact fun _ he => absurd he List.not_mem_nil
  | cons a rest ih =>
    intro e he
    rcases List.mem_cons.mp he with rfl | he
    · exact not_ends_take (hacts a List.mem_cons_self) d
    · exact ih (fun b hb => hacts b (List.mem_cons_of_mem _ hb)) _ e he

/-- A handle that was closed is dead until an open returns it. -/
theorem dead_of_ends (hb : d.table.Bounded bound) {a : Act} (ha : (a.take d).1.Ends h)
    {later : List Act} (hl : ∀ e ∈ (takeAll later (a.take d).2).1, e.issued? ≠ some h) :
    (takeAll later (a.take d).2).2.Dead h := by
  obtain ⟨haccounts, hb'⟩ := accounts_take hb a
  refine dead_of_not_mem_live (not_mem_live_takeAll hb' ?_ hl)
  rw [haccounts.live, Entry.issued?_of_ends ha]
  rintro (hh | ⟨-, hh⟩)
  · cases hh
  · exact hh ha

end Act

end GuestNet.Driver
