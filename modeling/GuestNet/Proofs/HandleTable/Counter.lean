import GuestNet.Proofs.HandleTable.Search

/-! The counter of a handle table before it goes around for the first time. It is above all handles
that were issued, so that the search ends where it starts and the handles come in the order of their
numbers, however many of them are released in between. -/
namespace GuestNet.HandleTable

variable {α β : Type}

/-- Where the counter and the live handles are once so many handles were issued. -/
structure Counted (n : Nat) (t : HandleTable α) : Prop where
  next : t.next.toNat = n % 2147483647 + 1
  live : ∀ h, t.contains h = true → h.toNat ≤ n

namespace Counted

variable {n : Nat} {t : HandleTable α}

theorem free_eq_next (hc : t.Counted n) (hn : n < 2147483647) : t.free = t.next := by
  apply search_of_not_live
  cases hl : t.contains t.next with
  | false => rfl
  | true =>
    have hle := hc.live t.next hl
    have hnext := hc.next
    omega

theorem toNat_free (hc : t.Counted n) (hn : n < 2147483647) : t.free.toNat = n + 1 := by
  rw [hc.free_eq_next hn, hc.next, Nat.mod_eq_of_lt hn]

theorem issue (hc : t.Counted n) (hn : n < 2147483647) (v : α) : (t.issue v).Counted (n + 1) where
  next := by
    have hfree := hc.toNat_free hn
    have hrange : t.free.InRange := Handle.inRange_iff.mpr (by omega)
    have hnext : (t.issue v).next = t.free.following := rfl
    rw [hnext, Handle.toNat_following hrange, hfree]
  live h hl := by
    rw [contains_eq_isSome, get?_issue, Function.update_apply] at hl
    split at hl
    · rename_i he
      rw [he, hc.toNat_free hn]
    · have hle := hc.live h (by rwa [contains_eq_isSome])
      omega

/-- The counter stands still and no handle comes to life. -/
theorem of_next_eq {u : HandleTable β} (hc : t.Counted n) (hnext : u.next = t.next)
    (hlive : ∀ h, u.contains h = true → t.contains h = true) : u.Counted n where
  next := hnext ▸ hc.next
  live h hl := hc.live h (hlive h hl)

end Counted

theorem counted_new (capacity : Nat) : (new capacity : HandleTable α).Counted 0 where
  next := rfl
  live h hl := by simp [contains_eq_isSome] at hl

/-- The handles are numbered in the order in which they were issued. -/
def InOrder (issued : List Handle) : Prop :=
  issued.map UInt32.toNat = List.range' 1 issued.length

theorem InOrder.nodup {issued : List Handle} (h : InOrder issued) : issued.Nodup := by
  have hnodup : (issued.map UInt32.toNat).Nodup := by
    rw [h]
    exact List.nodup_range'
  exact hnodup.of_map

/-- Until the counter has gone around, the handles come in order. -/
def Issues (issued : List Handle) (t : HandleTable α) : Prop :=
  issued.length ≤ 2147483647 → InOrder issued ∧ t.Counted issued.length

namespace Issues

variable {issued : List Handle} {t : HandleTable α}

theorem new (capacity : Nat) : Issues [] (HandleTable.new capacity : HandleTable α) :=
  fun _ => ⟨rfl, counted_new capacity⟩

theorem of_next_eq {u : HandleTable β} (hi : Issues issued t) (hnext : u.next = t.next)
    (hlive : ∀ h, u.contains h = true → t.contains h = true) : Issues issued u := fun hn =>
  ⟨(hi hn).1, (hi hn).2.of_next_eq hnext hlive⟩

theorem issue (hi : Issues issued t) (v : α) : Issues (issued ++ [t.free]) (t.issue v) := by
  intro hn
  rw [List.length_append, List.length_singleton] at hn ⊢
  obtain ⟨horder, hcounted⟩ := hi (by omega)
  refine ⟨?_, hcounted.issue (by omega) v⟩
  rw [InOrder, List.map_append, horder, List.length_append, List.length_singleton,
    List.range'_concat, List.map_singleton, hcounted.toNat_free (by omega), Nat.one_mul,
    Nat.add_comm 1]

end Issues
end GuestNet.HandleTable
