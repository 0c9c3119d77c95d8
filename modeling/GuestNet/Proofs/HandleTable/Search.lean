import Mathlib.Logic.Function.Iterate
import GuestNet.Proofs.HandleTable.Entries

/-! The search for a free handle. The counter goes around the whole range of handles before any
comes again, so among one handle more than there are live ones a free one is found. -/
namespace GuestNet

namespace Handle

/-- The handles that are ever issued. -/
def InRange (h : Handle) : Prop := first ≤ h ∧ h ≤ greatest

theorem inRange_iff {h : Handle} : h.InRange ↔ 1 ≤ h.toNat ∧ h.toNat ≤ 2147483647 := by
  simp only [InRange, UInt32.le_iff_toNat_le]
  rfl

theorem inRange_first : InRange first := ⟨by decide, by decide⟩

theorem toNat_following {h : Handle} (hr : h.InRange) :
    h.following.toNat = h.toNat % 2147483647 + 1 := by
  rw [inRange_iff] at hr
  unfold following
  split
  · rename_i hle
    rw [UInt32.le_iff_toNat_le] at hle
    have hg : greatest.toNat = 2147483647 := rfl
    have hf : first.toNat = 1 := rfl
    omega
  · rename_i hle
    rw [UInt32.le_iff_toNat_le] at hle
    have hg : greatest.toNat = 2147483647 := rfl
    rw [UInt32.toNat_add, UInt32.toNat_one]
    omega

theorem InRange.following {h : Handle} (hr : h.InRange) : h.following.InRange := by
  rw [inRange_iff, toNat_following hr]
  omega

theorem InRange.iterate {h : Handle} (hr : h.InRange) (k : Nat) :
    (Handle.following^[k] h).InRange := by
  induction k with
  | zero => exact hr
  | succ k ih =>
    rw [Function.iterate_succ_apply']
    exact ih.following

theorem toNat_iterate {h : Handle} (hr : h.InRange) (k : Nat) :
    (following^[k] h).toNat = (h.toNat - 1 + k) % 2147483647 + 1 := by
  induction k with
  | zero =>
    rw [inRange_iff] at hr
    rw [Function.iterate_zero_apply]
    omega
  | succ k ih =>
    rw [Function.iterate_succ_apply', toNat_following (hr.iterate k), ih]
    omega

/-- No handle comes again before all others have come. -/
theorem iterate_injOn {h : Handle} (hr : h.InRange) {j k : Nat} (hj : j < 2147483647)
    (hk : k < 2147483647) (he : following^[j] h = following^[k] h) : j = k := by
  have ht := congrArg UInt32.toNat he
  rw [toNat_iterate hr, toNat_iterate hr] at ht
  omega

end Handle

namespace HandleTable

variable {α : Type}

/-- The search ends at one of the handles that it looks at. -/
theorem exists_iterate_search (live : Handle → Bool) (passes : Nat) (h : Handle) :
    ∃ k, search live passes h = Handle.following^[k] h := by
  induction passes generalizing h with
  | zero => exact ⟨0, rfl⟩
  | succ passes ih =>
    unfold search
    split
    · obtain ⟨k, hk⟩ := ih h.following
      exact ⟨k + 1, hk⟩
    · exact ⟨0, rfl⟩

/-- A search that starts at a handle that is not live ends there. -/
theorem search_of_not_live {live : Handle → Bool} {h : Handle} (hl : live h = false)
    (passes : Nat) : search live passes h = h := by
  cases passes with
  | zero => rfl
  | succ passes => rw [search, hl, if_neg Bool.false_ne_true]

/-- So many live handles are in the way from a handle on before the first free one. -/
structure FreeAfter (live : Handle → Bool) (h : Handle) (k : Nat) : Prop where
  taken : ∀ j < k, live (Handle.following^[j] h) = true
  free : live (Handle.following^[k] h) = false

namespace FreeAfter

variable {live : Handle → Bool} {h : Handle} {k : Nat}

theorem tail (hf : FreeAfter live h (k + 1)) : FreeAfter live h.following k where
  taken j hj := hf.taken (j + 1) (Nat.succ_lt_succ hj)
  free := hf.free

/-- The search ends at the first free handle that is in its reach. -/
theorem search_eq {passes : Nat} (hf : FreeAfter live h k) (hk : k ≤ passes) :
    search live passes h = Handle.following^[k] h := by
  induction k generalizing h passes with
  | zero => exact search_of_not_live hf.free passes
  | succ k ih =>
    have hhead : live h = true := hf.taken 0 k.succ_pos
    cases passes with
    | zero => omega
    | succ passes =>
      rw [search, if_pos hhead]
      exact ih hf.tail (Nat.le_of_succ_le_succ hk)

end FreeAfter

/-- The live handles are too few to fill the reach of the search. -/
theorem exists_free (t : HandleTable α) (hr : t.next.InRange) (hs : t.size < 2147483647) :
    ∃ k ≤ t.size, t.contains (Handle.following^[k] t.next) = false := by
  by_contra hall
  have hlive : ∀ k ∈ Finset.range (t.size + 1),
      Handle.following^[k] t.next ∈ t.entries.keys.toFinset := by
    intro k hk
    rw [List.mem_toFinset, Std.TreeMap.mem_keys, Std.TreeMap.mem_iff_contains]
    by_contra hn
    exact hall ⟨k, Nat.lt_succ_iff.mp (Finset.mem_range.mp hk), Bool.eq_false_of_not_eq_true hn⟩
  have hinj : Set.InjOn (fun k => Handle.following^[k] t.next) (Finset.range (t.size + 1)) := by
    intro j hj k hk he
    simp only [Finset.coe_range, Set.mem_Iio] at hj hk
    exact Handle.iterate_injOn hr (by omega) (by omega) he
  have hcard := Finset.card_le_card_of_injOn _ hlive hinj
  rw [Finset.card_range, List.toFinset_card_of_nodup Std.TreeMap.nodup_keys,
    Std.TreeMap.length_keys] at hcard
  exact absurd hcard (by simp [size])

/-- Not more handles than there are live ones are in the way of the counter. -/
theorem exists_freeAfter (t : HandleTable α) (hr : t.next.InRange) (hs : t.size < 2147483647) :
    ∃ k ≤ t.size, FreeAfter t.contains t.next k := by
  obtain ⟨k, hk, hfree⟩ := t.exists_free hr hs
  have hex : ∃ k, t.contains (Handle.following^[k] t.next) = false := ⟨k, hfree⟩
  refine ⟨Nat.find hex, (Nat.find_min' hex hfree).trans hk, fun j hj => ?_, Nat.find_spec hex⟩
  exact Bool.eq_true_of_not_eq_false (Nat.find_min hex hj)

/-- What holds of a table at all times. -/
structure Bounded (t : HandleTable α) (bound : Nat) : Prop where
  capacity : t.capacity = bound
  bound_le : bound ≤ 2147483647
  size_le : t.size ≤ bound
  next : t.next.InRange
  live : ∀ h, t.contains h = true → h.InRange

theorem bounded_new (capacity : Nat) :
    (new capacity : HandleTable α).Bounded (min capacity Handle.greatest.toNat) where
  capacity := rfl
  bound_le := min_le_right ..
  size_le := by simp
  next := Handle.inRange_first
  live h hl := by simp [contains_eq_isSome] at hl

variable {t : HandleTable α} {bound : Nat}

theorem Bounded.isFull_iff (hb : t.Bounded bound) : t.isFull = true ↔ t.size = bound := by
  have := hb.size_le
  rw [isFull, decide_eq_true_iff, hb.capacity]
  omega

theorem Bounded.size_ne (hb : t.Bounded bound) (hf : t.isFull = false) : t.size ≠ bound := by
  intro hs
  cases hf.symm.trans (hb.isFull_iff.mpr hs)

/-- The free handle of a table with room is not live. -/
theorem Bounded.get?_free (hb : t.Bounded bound) (hs : t.size ≠ bound) :
    t.get? t.free = none := by
  have := hb.size_le
  have := hb.bound_le
  obtain ⟨k, hk, hf⟩ := t.exists_freeAfter hb.next (by omega)
  have hfound : t.free = Handle.following^[k] t.next := hf.search_eq hk
  rw [hfound]
  exact contains_eq_false_iff.mp hf.free

theorem Bounded.free_inRange (hb : t.Bounded bound) : t.free.InRange := by
  obtain ⟨k, hk⟩ := exists_iterate_search t.contains t.size t.next
  rw [free, hk]
  exact hb.next.iterate k

/-- The table after a handle has been issued. -/
def issue (t : HandleTable α) (v : α) : HandleTable α :=
  { t.put t.free v with next := t.free.following }

theorem get?_issue (t : HandleTable α) (v : α) :
    (t.issue v).get? = Function.update t.get? t.free (some v) :=
  get?_put t t.free v

theorem Bounded.allocate_of_full (hb : t.Bounded bound) (hs : t.size = bound) (v : α) :
    t.allocate v = .error (.tooManyHandles bound) := by
  rw [allocate, if_pos (hb.isFull_iff.mpr hs), hb.capacity]

theorem Bounded.allocate_of_room (hb : t.Bounded bound) (hs : t.size ≠ bound) (v : α) :
    t.allocate v = .ok (t.free, t.issue v) := by
  rw [allocate, if_neg fun hf => hs (hb.isFull_iff.mp hf)]
  rfl

theorem Bounded.issue (hb : t.Bounded bound) (hs : t.size ≠ bound) (v : α) :
    (t.issue v).Bounded bound where
  capacity := hb.capacity
  bound_le := hb.bound_le
  size_le := by
    have hsize : (t.issue v).size = t.size + 1 := by
      rw [show (t.issue v).size = (t.put t.free v).size from rfl, size_put,
        contains_eq_false_iff.mpr (hb.get?_free hs)]
      rfl
    have := hb.size_le
    omega
  next := hb.free_inRange.following
  live h hl := by
    rw [contains_eq_isSome, get?_issue, Function.update_apply] at hl
    split at hl
    · rename_i he
      exact he ▸ hb.free_inRange
    · exact hb.live h (by rwa [contains_eq_isSome])

theorem Bounded.put (hb : t.Bounded bound) {h : Handle} {v : α} (hv : t.get? h = some v) (w : α) :
    (t.put h w).Bounded bound where
  capacity := hb.capacity
  bound_le := hb.bound_le
  size_le := by
    rw [size_put, if_pos (contains_eq_true_iff.mpr ⟨v, hv⟩)]
    exact hb.size_le
  next := hb.next
  live h' hl := by
    rw [contains_eq_isSome, get?_put, Function.update_apply] at hl
    split at hl
    · rename_i he
      exact he ▸ hb.live h (contains_eq_true_iff.mpr ⟨v, hv⟩)
    · exact hb.live h' (by rwa [contains_eq_isSome])

theorem Bounded.drop (hb : t.Bounded bound) (h : Handle) : (t.drop h).Bounded bound where
  capacity := hb.capacity
  bound_le := hb.bound_le
  size_le := (size_drop_le t h).trans hb.size_le
  next := hb.next
  live h' hl := by
    rw [contains_eq_isSome, get?_drop, Function.update_apply] at hl
    split at hl
    · cases hl
    · exact hb.live h' (by rwa [contains_eq_isSome])

theorem Bounded.drained (hb : t.Bounded bound) : t.drain.2.Bounded bound where
  capacity := hb.capacity
  bound_le := hb.bound_le
  size_le := by simp
  next := hb.next
  live h hl := by simp [contains_eq_isSome] at hl

end HandleTable
end GuestNet
