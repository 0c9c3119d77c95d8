import GuestNet.Driver
import GuestNet.Proofs.Connection.Transfers
import GuestNet.Proofs.HandleTable.Search

/-! What calls do to what is behind a handle. An operation on a handle is one on its connection, and
until the handle is closed no call does anything else to that connection. So a run of calls does to
it what the operations among them that name its handle would do by themselves. -/
namespace GuestNet

namespace Call

/-- The handle that has to be live. -/
def handle? : Call → Option Handle
  | .perform h _ => some h
  | .close h => some h
  | _ => none

/-- What is asked under a handle. -/
def operation? (h : Handle) : Call → Option Operation
  | .perform k op => if k = h then some op else none
  | _ => none

/-- A call after which the handle is not live. -/
def Ends (h : Handle) (c : Call) : Prop := c = .close h ∨ c = .closeAll

instance (h : Handle) (c : Call) : Decidable (c.Ends h) := inferInstanceAs (Decidable (_ ∨ _))

theorem operation?_eq_some_iff {h : Handle} {c : Call} {op : Operation} :
    c.operation? h = some op ↔ c = .perform h op := by
  cases c with
  | perform k o =>
    rw [operation?]
    split
    · rename_i hk
      subst hk
      simp
    · rename_i hk
      simp [hk]
  | _ => simp [operation?]

/-- What was asked under a handle, with what came of it. -/
def answered (h : Handle) (log : List (Call × Outcome)) : List (Operation × Outcome) :=
  log.filterMap fun x => (x.1.operation? h).map (·, x.2)

end Call

namespace Driver

variable {W C : Type} [Connection C] {d : Driver W C} {h : Handle} {s : Slot C} {bound : Nat}

/-- What a call can be told, and what it then leaves in the table. -/
inductive Effect (d : Driver W C) : Call → Outcome → HandleTable (Slot C) → Prop where
  | refused {c : Call} {e : DriverError} : (∀ h ∈ c.handle?, d.table.get? h = none) →
      Effect d c (.error e) d.table
  | looked (h : Handle) : Effect d (.isOpen h) (.ok (.flag (d.isOpen h))) d.table
  | issued {raw options : String} (s : Slot C) : d.table.isFull = false →
      Effect d (.openTarget raw options) (.ok (.handle d.table.free)) (d.table.issue s)
  | performed {h : Handle} {s : Slot C} (op : Operation) : d.table.get? h = some s →
      Effect d (.perform h op) (s.perform d.setup.config.maxTransfer op).1
        (d.table.put h (s.perform d.setup.config.maxTransfer op).2)
  | closed {h : Handle} {s : Slot C} : d.table.get? h = some s →
      Effect d (.close h) (.ok .nothing) (d.table.drop h)
  | drained : Effect d .closeAll (.ok .nothing) d.table.drain.2

theorem effect_openTarget (raw options : String) (d : Driver W C) :
    Effect d (.openTarget raw options) ((d.openTarget raw options).1.map .handle)
      (d.openTarget raw options).2.table := by
  have refused {e : DriverError} : Effect d (.openTarget raw options) (.error e) d.table := by
    apply Effect.refused
    rintro h ⟨⟩
  rw [openTarget]
  split
  · exact refused
  · split
    · exact refused
    · rename_i c world _
      by_cases hf : d.table.isFull = true
      · rw [bind, HandleTable.allocate, if_pos hf]
        exact refused
      · rw [bind, HandleTable.allocate, if_neg hf]
        exact .issued (.ofConnection c) (Bool.eq_false_of_not_eq_true hf)

theorem effect_perform (h : Handle) (op : Operation) (d : Driver W C) :
    Effect d (.perform h op) (d.perform h op).1 (d.perform h op).2.table := by
  cases hg : d.table.get? h with
  | none =>
    rw [perform, HandleTable.lookup_of_get?_none hg]
    apply Effect.refused
    rintro k ⟨⟩
    exact hg
  | some s =>
    rw [perform, HandleTable.lookup_of_get? hg]
    exact .performed op hg

theorem effect_close (h : Handle) (d : Driver W C) :
    Effect d (.close h) ((d.close h).1.map fun _ => .nothing) (d.close h).2.table := by
  cases hg : d.table.get? h with
  | none =>
    rw [close, HandleTable.release_of_get?_none hg]
    apply Effect.refused
    rintro k ⟨⟩
    exact hg
  | some s =>
    rw [close, HandleTable.release_of_get? hg]
    exact .closed hg

theorem effect_call (c : Call) (d : Driver W C) :
    Effect d c (call c d).1 (call c d).2.table := by
  cases c with
  | openTarget raw options => exact effect_openTarget raw options d
  | perform h op => exact effect_perform h op d
  | close h => exact effect_close h d
  | closeAll => exact .drained
  | isOpen h => exact .looked h

theorem setup_call (c : Call) (d : Driver W C) : (call c d).2.setup = d.setup := by
  cases c with
  | openTarget raw options =>
    change (d.openTarget raw options).2.setup = d.setup
    rw [openTarget]
    split
    · rfl
    · split
      · rfl
      · rw [bind]
        split <;> rfl
  | perform h op =>
    change (d.perform h op).2.setup = d.setup
    rw [perform]
    split <;> rfl
  | close h =>
    change (d.close h).2.setup = d.setup
    rw [close]
    split <;> rfl
  | closeAll => rfl
  | isOpen h => rfl

namespace Effect

variable {c : Call} {o : Outcome} {t : HandleTable (Slot C)}

theorem bounded (he : Effect d c o t) (hb : d.table.Bounded bound) : t.Bounded bound := by
  cases he with
  | refused | looked => exact hb
  | issued s hf => exact hb.issue (hb.size_ne hf) s
  | performed op hg => exact hb.put hg _
  | closed => exact hb.drop _
  | drained => exact hb.drained

/-- A handle that a call does not end stays bound, and what is asked under it is asked of its
connection. -/
theorem get?_eq (he : Effect d c o t) (hb : d.table.Bounded bound) (hs : d.table.get? h = some s)
    (hn : ¬ c.Ends h) : t.get? h =
      some ((c.operation? h).elim s fun op => (s.perform d.setup.config.maxTransfer op).2) := by
  cases he with
  | refused hr =>
    cases hop : c.operation? h with
    | none => exact hs
    | some op =>
      obtain rfl := Call.operation?_eq_some_iff.mp hop
      cases (hr h rfl).symm.trans hs
  | looked => exact hs
  | issued s' hf =>
    have hfree : d.table.get? d.table.free = none := hb.get?_free (hb.size_ne hf)
    have hne : h ≠ d.table.free := by
      rintro rfl
      cases hs.symm.trans hfree
    rw [HandleTable.get?_issue, Function.update_of_ne hne]
    exact hs
  | @performed k s' op hg =>
    rw [HandleTable.get?_put]
    by_cases hk : k = h
    · subst hk
      obtain rfl := Option.some.inj (hs.symm.trans hg)
      simp [Call.operation?]
    · rw [Function.update_of_ne (Ne.symm hk)]
      simpa [Call.operation?, hk] using hs
  | @closed k s' hg =>
    have hk : h ≠ k := by
      rintro rfl
      exact hn (.inl rfl)
    rw [HandleTable.get?_drop, Function.update_of_ne hk]
    exact hs
  | drained => exact absurd (.inr rfl) hn

end Effect

theorem bounded_call (hb : d.table.Bounded bound) (c : Call) :
    (call c d).2.table.Bounded bound :=
  (effect_call c d).bounded hb

theorem get?_call (hb : d.table.Bounded bound) (hs : d.table.get? h = some s) {c : Call}
    (hn : ¬ c.Ends h) : (call c d).2.table.get? h =
      some ((c.operation? h).elim s fun op => (s.perform d.setup.config.maxTransfer op).2) :=
  (effect_call c d).get?_eq hb hs hn

theorem call_perform (hs : d.table.get? h = some s) (op : Operation) :
    call (.perform h op) d = ((s.perform d.setup.config.maxTransfer op).1,
      { d with table := d.table.put h (s.perform d.setup.config.maxTransfer op).2 }) := by
  rw [call, perform, HandleTable.lookup_of_get? hs]

/-- A run that does not end a handle does to its connection what is asked under it, in order. -/
theorem run_perform (hb : d.table.Bounded bound) (hs : d.table.get? h = some s) {calls : List Call}
    (hn : ∀ c ∈ calls, ¬ c.Ends h) :
    Call.answered h (calls.zip (run calls d).1) = (calls.filterMap (Call.operation? h)).zip
        (s.performAll d.setup.config.maxTransfer (calls.filterMap (Call.operation? h))).1 ∧
      (run calls d).2.table.get? h = some
        (s.performAll d.setup.config.maxTransfer (calls.filterMap (Call.operation? h))).2 := by
  induction calls generalizing d s with
  | nil => exact ⟨rfl, hs⟩
  | cons c rest ih =>
    have hrest : ∀ c ∈ rest, ¬ c.Ends h := fun c hc => hn c (List.mem_cons_of_mem _ hc)
    obtain ⟨ha, hg⟩ := ih (bounded_call hb c) (get?_call hb hs (hn c List.mem_cons_self)) hrest
    rw [setup_call] at ha hg
    cases hop : c.operation? h with
    | none =>
      rw [hop, Option.elim_none] at ha hg
      simp only [run, List.zip_cons_cons, List.filterMap_cons, hop]
      refine ⟨?_, hg⟩
      rw [← ha, Call.answered, List.filterMap_cons, hop]
      rfl
    | some op =>
      rw [hop, Option.elim_some] at ha hg
      obtain rfl := Call.operation?_eq_some_iff.mp hop
      simp only [run, List.zip_cons_cons, List.filterMap_cons, hop, Slot.performAll]
      refine ⟨?_, hg⟩
      rw [← ha, Call.answered, List.filterMap_cons, hop, call_perform hs]
      rfl

/-- A driver that was made and has answered some calls. -/
inductive Reachable : Driver W C → Prop where
  | new (config : Config) (backends : List (Backend W C)) (world : W) :
      Reachable (.new config backends world)
  | call {d : Driver W C} (c : Call) : Reachable d → Reachable (d.call c).2

theorem Reachable.exists_bounded (hd : d.Reachable) : ∃ bound, d.table.Bounded bound := by
  induction hd with
  | new config backends world => exact ⟨_, HandleTable.bounded_new config.maxHandles⟩
  | call c _ ih =>
    obtain ⟨bound, hb⟩ := ih
    exact ⟨bound, bounded_call hb c⟩

end Driver
end GuestNet
