import GuestNet.Idna.Domain

/-! Domain names of plain ASCII characters. Such a label comes out in lower case: there is nothing to
normalise in it, and it runs from left to right. -/
namespace GuestNet

theorem isAlpha_iff {c : Char} :
    c.isAlpha = true ↔ (65 ≤ c.toNat ∧ c.toNat ≤ 90) ∨ (97 ≤ c.toNat ∧ c.toNat ≤ 122) := by
  change (c.isUpper || c.isLower) = true ↔ _
  rw [Bool.or_eq_true]
  refine or_congr ?_ ?_
  · change decide ('A'.val ≤ c.val ∧ c.val ≤ 'Z'.val) = true ↔ _
    rw [decide_eq_true_iff, UInt32.le_iff_toNat_le, UInt32.le_iff_toNat_le]
    rfl
  · change (decide ('a'.val ≤ c.val) && decide (c.val ≤ 'z'.val)) = true ↔ _
    rw [Bool.and_eq_true, decide_eq_true_iff, decide_eq_true_iff, UInt32.le_iff_toNat_le,
      UInt32.le_iff_toNat_le]
    rfl

theorem toNat_toLower (c : Char) :
    c.toLower.toNat = if 65 ≤ c.toNat ∧ c.toNat ≤ 90 then c.toNat + 32 else c.toNat := by
  have hle : ('A'.val ≤ c.val ∧ c.val ≤ 'Z'.val) ↔ (65 ≤ c.toNat ∧ c.toNat ≤ 90) := by
    rw [UInt32.le_iff_toNat_le, UInt32.le_iff_toNat_le]
    rfl
  by_cases h : 'A'.val ≤ c.val ∧ c.val ≤ 'Z'.val
  · have hc : 65 ≤ c.val.toNat ∧ c.val.toNat ≤ 90 := hle.mp h
    have he : c.toLower.val = c.val + 32 := congrArg Char.val (dif_pos h)
    rw [if_pos (hle.mp h)]
    change c.toLower.val.toNat = c.val.toNat + 32
    rw [he, UInt32.toNat_add]
    exact Nat.mod_eq_of_lt (show c.val.toNat + 32 < 2 ^ 32 by omega)
  · have he : c.toLower = c := dif_neg h
    rw [if_neg fun h' => h (hle.mpr h'), he]

theorem toLower_of_not_isUpper {c : Char} (hc : ¬ (65 ≤ c.toNat ∧ c.toNat ≤ 90)) :
    c.toLower = c :=
  Char.toNat_inj.mp ((toNat_toLower c).trans (if_neg hc))

theorem toLower_toLower (c : Char) : c.toLower.toLower = c.toLower := by
  have h := toNat_toLower c
  apply toLower_of_not_isUpper
  split at h <;> omega

theorem toLower_eq_self {c : Char} (hc : c.toNat < 65) : c.toLower = c :=
  toLower_of_not_isUpper (by omega)

/-- The code points from `A` to `Z` are mapped away from all of those below them. -/
theorem toLower_eq_iff {c d : Char} (hd : d.toNat < 65) : c.toLower = d ↔ c = d := by
  constructor
  · rintro rfl
    rw [toNat_toLower] at hd
    split at hd
    · omega
    · exact (toLower_eq_self hd).symm
  · rintro rfl
    exact toLower_eq_self hd

namespace Text.Ranges

theorem words_ofList (l : List Char) : words (String.ofList l) =
    ((l.map fun c => if c = '\n' then ' ' else c).splitOn ' ').filter (· ≠ []) := by
  rw [words, String.toList_ofList]

theorem search_eq_false {bounds : Array (Nat × Nat)} {n : Nat} (hb : ∀ b ∈ bounds, n < b.1)
    (low high : Nat) : search bounds n low high = false := by
  fun_induction search bounds n low high with
  | case1 => rfl
  | case2 _ _ _ _ _ _ _ _ ih => exact ih
  | case3 _ _ _ _ first last hm hn => exact absurd (hb _ (Array.mem_of_getElem? hm)) hn
  | case4 _ _ _ _ first last hm hn => exact absurd (hb _ (Array.mem_of_getElem? hm)) hn
  | case5 => rfl

/-- No ASCII character is in a set whose ranges all start beyond ASCII. -/
theorem contains_eq_false {r : Ranges} {c : Char} (hr : r.bounds.toList.all (0x80 ≤ ·.1) = true)
    (hc : c.toNat < 0x80) : r.contains c = false := by
  refine search_eq_false (fun b hb => ?_) 0 r.bounds.size
  have := List.all_eq_true.mp hr b (Array.mem_toList_iff.mpr hb)
  exact Nat.lt_of_lt_of_le hc (by simpa using this)

end Text.Ranges

namespace Idna

open Text.Ranges in
theorem all_rightToLeft : rightToLeft.bounds.toList.all (0x80 ≤ ·.1) = true := by
  rw [rightToLeft, ofText, words_ofList]
  decide +kernel

open Text.Ranges in
theorem all_arabicLetters : arabicLetters.bounds.toList.all (0x80 ≤ ·.1) = true := by
  rw [arabicLetters, ofText, words_ofList]
  decide +kernel

open Text.Ranges in
theorem all_arabicNumbers : arabicNumbers.bounds.toList.all (0x80 ≤ ·.1) = true := by
  rw [arabicNumbers, ofText, words_ofList]
  decide +kernel

theorem mapM_map?_of_isAscii {s : List Char} (hs : ∀ c ∈ s, c.toNat < 0x80) :
    s.mapM map? = some (s.map fun c => [c.toLower]) := by
  induction s with
  | nil => rfl
  | cons c s ih =>
    have hc : map? c = some [c.toLower] := by rw [map?, if_pos (hs c List.mem_cons_self)]
    rw [List.mapM_cons, hc, ih fun d hd => hs d (List.mem_cons_of_mem c hd)]
    rfl

theorem isAscii_map_toLower {s : List Char} (hs : ∀ c ∈ s, c.toNat < 0x80) :
    ∀ c ∈ s.map Char.toLower, c.toNat < 0x80 := by
  intro d hd
  obtain ⟨c, hc, rfl⟩ := List.mem_map.mp hd
  have := hs c hc
  rw [toNat_toLower]
  split <;> omega

theorem normalForm_of_isAscii {s : List Char} (hs : ∀ c ∈ s, c.toNat < 0x80) :
    Text.normalForm s = s := by
  rw [Text.normalForm, if_pos]
  exact List.all_eq_true.mpr fun c hc => decide_eq_true (Nat.lt_trans (hs c hc) (by decide))

theorem isRightToLeft_of_isAscii {s : List Char} (hs : ∀ c ∈ s, c.toNat < 0x80) :
    isRightToLeft s = false := by
  refine List.any_eq_false.mpr fun c hc => ?_
  have hr := Text.Ranges.contains_eq_false all_rightToLeft (hs c hc)
  have hl := Text.Ranges.contains_eq_false all_arabicLetters (hs c hc)
  have hn := Text.Ranges.contains_eq_false all_arabicNumbers (hs c hc)
  rw [direction, if_neg (by simp [hr]), if_neg (by simp [hl]), if_neg (by simp [hn])]
  split
  · decide
  · split
    · decide
    · split
      · decide
      · split <;> decide

/-- A name of one ASCII label that does not claim to stand for others. -/
theorem toAscii?_of_isAscii {s : List Char} (hs : ∀ c ∈ s, c.toNat < 0x80) (hd : '.' ∉ s)
    (ha : ¬ acePrefix.isPrefixOf (s.map Char.toLower)) :
    toAscii? s =
      if (s.map Char.toLower).any isForbidden then none else some (s.map Char.toLower) := by
  have hl := isAscii_map_toLower hs
  have hdot : '.' ∉ s.map Char.toLower := by
    intro hm
    obtain ⟨c, hc, he⟩ := List.mem_map.mp hm
    exact hd ((toLower_eq_iff (by decide)).mp he ▸ hc)
  have hflat : (s.map fun c => [c.toLower]).flatten = s.map Char.toLower := by
    rw [← List.flatMap_def, ← List.map_eq_flatMap]
  have hascii : isAscii (s.map Char.toLower) = true :=
    List.all_eq_true.mpr fun c hc => decide_eq_true (hl c hc)
  have hlabels : [s.map Char.toLower].mapM unicodeLabel? = some [s.map Char.toLower] := by
    rw [List.mapM_cons, unicodeLabel?, if_neg ha, hascii]
    rfl
  rw [toAscii?, mapM_map?_of_isAscii hs]
  simp only [hflat, normalForm_of_isAscii hl, List.splitOn_eq_singleton hdot, hlabels,
    List.any_cons, List.any_nil, Bool.or_false, isRightToLeft_of_isAscii hl, Bool.false_and,
    Bool.false_eq_true, if_false, List.map_cons, List.map_nil, asciiLabel, hascii, if_true,
    List.intercalate_singleton]

end Idna
end GuestNet
