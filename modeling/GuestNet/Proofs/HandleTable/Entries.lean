import Mathlib.Data.Set.Card
import GuestNet.HandleTable

/-! What the operations of a handle table do to the handles that are live and to what they are
bound to. `get?` is the view: every other operation is described by it. -/
namespace GuestNet.HandleTable

variable {α : Type}

theorem contains_eq_isSome (t : HandleTable α) (h : Handle) :
    t.contains h = (t.get? h).isSome :=
  Std.TreeMap.contains_eq_isSome_getElem?

theorem contains_eq_true_iff {t : HandleTable α} {h : Handle} :
    t.contains h = true ↔ ∃ v, t.get? h = some v := by
  rw [contains_eq_isSome, Option.isSome_iff_exists]

theorem contains_eq_false_iff {t : HandleTable α} {h : Handle} :
    t.contains h = false ↔ t.get? h = none := by
  rw [contains_eq_isSome, Option.isSome_eq_false_iff, Option.isNone_iff_eq_none]

@[simp] theorem get?_new (capacity : Nat) (h : Handle) :
    (new capacity : HandleTable α).get? h = none :=
  Std.TreeMap.getElem?_emptyc

@[simp] theorem size_new (capacity : Nat) : (new capacity : HandleTable α).size = 0 :=
  Std.TreeMap.size_emptyc

theorem lookup_of_get? {t : HandleTable α} {h : Handle} {v : α} (hv : t.get? h = some v) :
    t.lookup h = .ok v := by
  rw [lookup, hv]

theorem lookup_of_get?_none {t : HandleTable α} {h : Handle} (hn : t.get? h = none) :
    t.lookup h = .error (.badHandle h) := by
  rw [lookup, hn]

theorem lookup_eq_ok_iff {t : HandleTable α} {h : Handle} {v : α} :
    t.lookup h = .ok v ↔ t.get? h = some v := by
  cases hg : t.get? h with
  | none => simp [lookup_of_get?_none hg]
  | some w => simp [lookup_of_get? hg]

theorem get?_put (t : HandleTable α) (h : Handle) (v : α) :
    (t.put h v).get? = Function.update t.get? h (some v) := by
  funext h'
  simp only [get?, put, Std.TreeMap.getElem?_insert, Std.LawfulEqCmp.compare_eq_iff_eq,
    Function.update_apply, eq_comm (a := h)]

/-- The table without a handle. -/
def drop (t : HandleTable α) (h : Handle) : HandleTable α :=
  { t with entries := t.entries.erase h }

theorem get?_drop (t : HandleTable α) (h : Handle) :
    (t.drop h).get? = Function.update t.get? h none := by
  funext h'
  simp only [get?, drop, Std.TreeMap.getElem?_erase, Std.LawfulEqCmp.compare_eq_iff_eq,
    Function.update_apply, eq_comm (a := h)]

theorem size_drop_le (t : HandleTable α) (h : Handle) : (t.drop h).size ≤ t.size :=
  Std.TreeMap.size_erase_le

theorem release_of_get? {t : HandleTable α} {h : Handle} {v : α} (hv : t.get? h = some v) :
    t.release h = .ok (v, t.drop h) := by
  rw [release, lookup_of_get? hv]
  rfl

theorem release_of_get?_none {t : HandleTable α} {h : Handle} (hn : t.get? h = none) :
    t.release h = .error (.badHandle h) := by
  rw [release, lookup_of_get?_none hn]
  rfl

theorem set_of_get? {t : HandleTable α} {h : Handle} {v : α} (hv : t.get? h = some v) (w : α) :
    t.set h w = .ok (t.put h w) := by
  rw [set, lookup_of_get? hv]
  rfl

theorem size_put {t : HandleTable α} {h : Handle} (v : α) :
    (t.put h v).size = if t.contains h then t.size else t.size + 1 :=
  Std.TreeMap.size_insert

@[simp] theorem get?_drained (t : HandleTable α) (h : Handle) : t.drain.2.get? h = none :=
  Std.TreeMap.getElem?_emptyc

@[simp] theorem size_drained (t : HandleTable α) : t.drain.2.size = 0 := Std.TreeMap.size_emptyc

theorem mem_drain_iff {t : HandleTable α} {h : Handle} {v : α} :
    (h, v) ∈ t.drain.1 ↔ t.get? h = some v :=
  Std.TreeMap.mem_toList_iff_getElem?_eq_some

theorem nodup_drain (t : HandleTable α) : (t.drain.1.map Prod.fst).Nodup := by
  rw [drain, Std.TreeMap.map_fst_toList_eq_keys]
  exact Std.TreeMap.nodup_keys

/-- The size counts the live handles. -/
theorem size_eq_ncard (t : HandleTable α) : t.size = {h | t.contains h = true}.ncard := by
  have hset : {h | t.contains h = true} = (t.entries.keys.toFinset : Set Handle) := by
    ext h
    simp [contains]
  rw [hset, Set.ncard_coe_finset, List.toFinset_card_of_nodup Std.TreeMap.nodup_keys,
    Std.TreeMap.length_keys]
  rfl

theorem isEmpty_eq_true_iff {t : HandleTable α} : t.isEmpty = true ↔ ∀ h, t.get? h = none := by
  rw [isEmpty, Std.TreeMap.isEmpty_iff_forall_not_mem]
  refine forall_congr' fun h => ?_
  rw [← Std.TreeMap.isSome_getElem?_iff_mem, Option.not_isSome_iff_eq_none]
  rfl

end GuestNet.HandleTable
