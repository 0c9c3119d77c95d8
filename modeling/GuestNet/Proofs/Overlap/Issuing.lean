import GuestNet.Proofs.HandleTable.Counter
import GuestNet.Proofs.Overlap.Custody

/-! Handles that are not live, under calls that overlap. Only an open brings a handle to life, and
the opens come by their handles in the order of the numbers until the counter has gone around. -/
namespace GuestNet.Overlap

/-- The handle that an open gets. -/
def Event.handle? : Event → Option Handle
  | issued _ h => some h
  | _ => none

namespace Machine

variable {W C : Type} {m m' : Machine W C} {before : Option (Stage W C)} {s' : Stage W C}
  {es : List Event} {issued : List Handle} {h : Handle}

namespace Move

theorem contains_eq_false (hm : Move m m' before s' es) (hh : m.table.contains h = false)
    (hes : ∀ e ∈ es, e.handle? ≠ some h) : m'.table.contains h = false := by
  cases hc : m'.table.contains h with
  | false => rfl
  | true =>
    obtain ⟨c, hg⟩ := HandleTable.contains_eq_true_iff.mp hc
    rcases hm.get?_of_get? hg with hg | he
    · cases hh.symm.trans (HandleTable.contains_eq_true_iff.mpr ⟨c, hg⟩)
    · exact absurd rfl (hes _ he)

theorem issues (hm : Move m m' before s' es) (hi : HandleTable.Issues issued m.table) :
    HandleTable.Issues (issued ++ es.filterMap Event.handle?) m'.table := by
  have kept (hes : ∀ e ∈ es, e.handle? = none) (hnext : m'.table.next = m.table.next) :
      HandleTable.Issues (issued ++ es.filterMap Event.handle?) m'.table := by
    rw [List.filterMap_eq_nil_iff.mpr hes, List.append_nil]
    refine hi.of_next_eq hnext fun h hh => ?_
    by_contra hn
    have hclosed := hm.contains_eq_false (Bool.eq_false_of_not_eq_true hn) fun e he => by
      rw [hes e he]
      exact nofun
    cases hh.symm.trans hclosed
  cases hm with
  | issued _ ht =>
    rw [ht]
    exact hi.issue m.cells.size
  | idle hk _ _ _ _ _ ho =>
    refine kept (fun e he => ?_) (congrArg HandleTable.next hk.table)
    obtain ⟨cell, op, rfl⟩ := ho e he
    rfl
  | begun _ hk | looked hk => exact kept nofun (congrArg HandleTable.next hk.table)
  | drained _ ht =>
    refine kept nofun ?_
    rw [ht]
    rfl
  | refused ht | took _ ht | tookNext _ ht => exact kept nofun (congrArg HandleTable.next ht)
  | released _ ht =>
    refine kept (by simp [Event.handle?]) ?_
    rw [ht]
    rfl
  | abandoned _ ht | closed ht =>
    exact kept (by simp [Event.handle?]) (congrArg HandleTable.next ht)

end Move

end Machine

/-- A handle is not live. A call that begins to ask for it comes back at its first step, at which
nothing else happens. -/
structure Machine.Dead {W C : Type} [Connection C] (h : Handle) (m : Machine W C) : Prop where
  contains : m.table.contains h = false
  perform : ∀ (id : CallId) (op : Operation), m.calls[id]? = some (.asked (.perform h op)) →
    m.step id = some (m.finish id (.error (.badHandle h)))
  close : ∀ id : CallId, m.calls[id]? = some (.asked (.close h)) →
    m.step id = some (m.finish id (.error (.badHandle h)))
  isOpen : ∀ id : CallId, m.calls[id]? = some (.asked (.isOpen h)) →
    m.step id = some (m.finish id (.ok (.flag false)))

variable {W C : Type} [Connection C] {config : Config} {backends : List (Backend W C)} {world : W}
  {m m' : Machine W C} {log es : List Event} {h : Handle}

theorem Machine.dead_of_contains (hh : m.table.contains h = false) : m.Dead h := by
  have hstep {id : CallId} {call : Call} (hc : m.calls[id]? = some (.asked call)) :
      m.step id = some (m.ask id call) := by
    rw [step, hc]
    rfl
  have hlookup := HandleTable.lookup_of_get?_none (HandleTable.contains_eq_false_iff.mp hh)
  refine ⟨hh, fun id op hc => ?_, fun id hc => ?_, fun id hc => ?_⟩
  · rw [hstep hc, ask, find, hlookup]
  · rw [hstep hc, ask, find, hlookup]
  · rw [hstep hc, ask, hh]

/-- What can come of a driver with calls in whatever stages, with the events on the way. -/
inductive Continues (m : Machine W C) : List Event → Machine W C → Prop where
  | rest : Continues m [] m
  | begin {es : List Event} {m' : Machine W C} (call : Call) :
      Continues m es m' → Continues m es (m'.begin call)
  | step {es : List Event} {m' n : Machine W C} (id : CallId) :
      Continues m es m' → m'.step id = some n → Continues m (es ++ (m'.event? id).toList) n
  | reorder {es : List Event} {m' : Machine W C} (id : CallId) {cells cells' : List CellId} :
      Continues m es m' → m'.calls[id]? = some (.closeNext cells) → cells.Perm cells' →
        Continues m es (m'.put id (.closeNext cells'))

theorem Continues.contains_eq_false (hc : Continues m es m') (hh : m.table.contains h = false)
    (hes : ∀ e ∈ es, e.handle? ≠ some h) : m'.table.contains h = false := by
  induction hc with
  | rest => exact hh
  | begin call _ ih => exact ih hes
  | step id _ hs ih =>
    obtain ⟨s, hcall, -⟩ := Option.bind_eq_some_iff.mp hs
    obtain ⟨s', -, hm⟩ := Machine.exists_move hcall hs
    exact hm.contains_eq_false (ih fun e he => hes e (List.mem_append_left _ he))
      fun e he => hes e (List.mem_append_right _ he)
  | reorder id _ _ _ ih => exact ih hes

theorem Logged.issues (h : Logged config backends world log m) :
    HandleTable.Issues (log.filterMap Event.handle?) m.table := by
  apply h.of_moves (P := fun log m => HandleTable.Issues (log.filterMap Event.handle?) m.table)
  · exact .new config.maxHandles
  · intro log m m' id s' es _ hi _ hm
    rw [List.filterMap_append]
    exact hm.issues hi

end GuestNet.Overlap
