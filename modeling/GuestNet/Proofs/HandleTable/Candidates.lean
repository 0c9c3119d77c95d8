import GuestNet.Proofs.HandleTable.Search

/-! The search for a free handle as a loop that nothing bounds: each step takes the handle at which
the counter stands and moves the counter on, and the loop ends with a handle that is not live. As
long as a table has room the loop ends, after one step more than there are live handles at the
latest, with the next free handle around the range: the one that the table issues. -/
namespace GuestNet

namespace Handle

/-- How many handles one is after another, around from the greatest to the first. -/
def ahead (h k : Handle) : Nat := (k.toNat + greatest.toNat - h.toNat) % greatest.toNat

theorem ahead_iterate {h : Handle} (hr : h.InRange) {k : Nat} (hk : k < 2147483647) :
    h.ahead (following^[k] h) = k := by
  have hbounds := inRange_iff.mp hr
  have hg : greatest.toNat = 2147483647 := rfl
  rw [ahead, toNat_iterate hr, hg]
  omega

theorem iterate_ahead {h k : Handle} (hr : h.InRange) (hk : k.InRange) :
    following^[h.ahead k] h = k := by
  have hbounds := inRange_iff.mp hr
  have hbounds' := inRange_iff.mp hk
  have hg : greatest.toNat = 2147483647 := rfl
  apply UInt32.toNat_inj.mp
  rw [toNat_iterate hr, ahead, hg]
  omega

/-- As `following`, but comes to nothing if the sum does not fit into a word. -/
def following? (h : Handle) : Option Handle :=
  if greatest ≤ h then some first
  else if h.toNat + 1 < UInt32.size then some (h + 1)
  else none

theorem following?_eq (h : Handle) : h.following? = some h.following := by
  rw [following?, following]
  split
  · rfl
  · rename_i hle
    rw [UInt32.le_iff_toNat_le] at hle
    have hg : greatest.toNat = 2147483647 := rfl
    have hlt : h.toNat + 1 < UInt32.size := by
      rw [UInt32.size]
      omega
    rw [if_pos hlt]

end Handle

namespace HandleTable

variable {α : Type}

/-- The loop over the candidates, from where the counter stands: how many steps it takes, which
handle it ends with, and where it leaves the counter. It does not end where it meets live handles
only, nor where the counter overflows. -/
inductive Finds (live : Handle → Bool) : Handle → Nat → Handle → Handle → Prop where
  | found {counter after : Handle} : counter.following? = some after → live counter = false →
      Finds live counter 1 counter after
  | passed {counter next found after : Handle} {steps : Nat} : counter.following? = some next →
      live counter = true → Finds live next steps found after →
        Finds live counter (steps + 1) found after

/-- The first handle at or after the counter, around the range, that is not live. -/
structure IsNextFree (live : Handle → Bool) (counter h : Handle) : Prop where
  inRange : h.InRange
  free : live h = false
  passed : ∀ k : Handle, k.InRange → counter.ahead k < counter.ahead h → live k = true

theorem Finds.unique {live : Handle → Bool} {counter : Handle} {steps steps' : Nat}
    {found found' after after' : Handle} (hf : Finds live counter steps found after)
    (hf' : Finds live counter steps' found' after') :
    steps' = steps ∧ found' = found ∧ after' = after := by
  induction hf generalizing steps' with
  | found hnext hfree =>
    cases hf' with
    | found hnext' => exact ⟨rfl, rfl, Option.some.inj (hnext'.symm.trans hnext)⟩
    | passed _ hlive => cases hfree.symm.trans hlive
  | passed hnext hlive _ ih =>
    cases hf' with
    | found _ hfree => cases hfree.symm.trans hlive
    | passed hnext' _ hrest =>
      obtain rfl := Option.some.inj (hnext'.symm.trans hnext)
      obtain ⟨hsteps, hfound, hafter⟩ := ih hrest
      exact ⟨congrArg (· + 1) hsteps, hfound, hafter⟩

namespace FreeAfter

variable {live : Handle → Bool} {counter : Handle} {k : Nat}

/-- The loop takes one step for each live handle in the way and one for the free one. -/
theorem finds (hf : FreeAfter live counter k) :
    Finds live counter (k + 1) (Handle.following^[k] counter)
      (Handle.following^[k] counter).following := by
  induction k generalizing counter with
  | zero => exact .found counter.following?_eq hf.free
  | succ k ih => exact .passed counter.following?_eq (hf.taken 0 k.succ_pos) (ih hf.tail)

theorem isNextFree (hf : FreeAfter live counter k) (hr : counter.InRange) (hk : k < 2147483647) :
    IsNextFree live counter (Handle.following^[k] counter) where
  inRange := hr.iterate k
  free := hf.free
  passed h hh hlt := by
    rw [Handle.ahead_iterate hr hk] at hlt
    rw [← Handle.iterate_ahead hr hh]
    exact hf.taken _ hlt

end FreeAfter

/-- A table whose counter is in range and that has room issues the next free handle, and the loop
that looks for it has this one outcome: it ends after one step more than there are live handles at
the latest, with this handle, and leaves the counter at the one after it. -/
theorem allocate_next_free {capacity : Nat} {t : HandleTable α}
    (hcapacity : t.capacity = (new capacity : HandleTable α).capacity) (hnext : t.next.InRange)
    (hroom : t.size < t.capacity) (v : α) :
    ∃ h t' steps, t.allocate v = .ok (h, t') ∧ IsNextFree t.contains t.next h ∧
      t'.next.InRange ∧ h.ahead t'.next = 1 ∧ steps ≤ t.size + 1 ∧
      ∀ n found after, Finds t.contains t.next n found after ↔
        n = steps ∧ found = h ∧ after = t'.next := by
  have hbound : t.capacity ≤ 2147483647 := hcapacity ▸ min_le_right ..
  obtain ⟨k, hk, hf⟩ := t.exists_freeAfter hnext (by omega)
  have hissued : t.free = Handle.following^[k] t.next := hf.search_eq hk
  have hrange : (Handle.following^[k] t.next).InRange := hnext.iterate k
  refine ⟨t.free, t.issue v, k + 1, ?_, ?_, ?_, ?_, by omega, fun n found after => ?_⟩
  · rw [allocate, if_neg (by simpa [isFull] using hroom)]
    rfl
  · rw [hissued]
    exact hf.isNextFree hnext (by omega)
  · rw [issue, hissued]
    exact hrange.following
  · rw [issue, hissued]
    exact Handle.ahead_iterate (k := 1) hrange (by decide)
  · have hfinds : Finds t.contains t.next (k + 1) t.free (t.issue v).next := by
      rw [issue, hissued]
      exact hf.finds
    constructor
    · exact hfinds.unique
    · rintro ⟨rfl, rfl, rfl⟩
      exact hfinds

namespace Turnover

/-- The counter is at the greatest handle, which is live, as is the first one after it. -/
def table : HandleTable String :=
  { ((new 4 : HandleTable String).put .first "low").put .greatest "top" with next := .greatest }

/-- Both live handles are in the way, so that the loop takes the most steps it can. -/
theorem allocate_next_free_past_greatest :
    table.next.InRange ∧ table.size < table.capacity ∧
      Finds table.contains table.next (table.size + 1) 2 3 ∧
      ∃ t', table.allocate "next" = .ok (2, t') ∧ IsNextFree table.contains table.next 2 ∧
        t'.next = 3 := by
  have hcapacity : table.capacity = (new 4 : HandleTable String).capacity := rfl
  have hnext : table.next.InRange := ⟨by decide, by decide⟩
  have hroom : table.size < table.capacity := by decide
  have hfinds : Finds table.contains table.next (table.size + 1) 2 3 :=
    .passed rfl (by decide) (.passed rfl (by decide) (.found rfl (by decide)))
  obtain ⟨h, t', steps, hissued, hfree, _, _, _, honly⟩ :=
    allocate_next_free hcapacity hnext hroom "next"
  obtain ⟨_, rfl, hafter⟩ := (honly _ _ _).mp hfinds
  exact ⟨hnext, hroom, hfinds, t', hissued, hfree, hafter.symm⟩

end Turnover

end HandleTable
end GuestNet
