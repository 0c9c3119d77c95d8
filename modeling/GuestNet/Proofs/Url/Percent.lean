import Mathlib.Data.List.Basic
import Mathlib.Tactic.SplitIfs
import GuestNet.Proofs.Url.AsciiHost
import GuestNet.Url.Path

/-! What texts with percent signs stand for. Encoding a text does not change that, unless it encodes
percent signs or hexadecimal digits, and only a few texts stand for dots. -/
namespace GuestNet.Url

theorem hexDigitValue?_upperHexDigit :
    ∀ n < 16, hexDigitValue? (upperHexDigit n) = some n := by
  decide

/-- An encoded byte stands for itself. -/
theorem percentDecode_encodeByte (b : UInt8) (s : List Char) :
    percentDecode (encodeByte b ++ s) = b :: percentDecode s := by
  have hb := b.toNat_lt
  have hhigh := hexDigitValue?_upperHexDigit (b.toNat / 16) (by omega)
  have hlow := hexDigitValue?_upperHexDigit (b.toNat % 16) (by omega)
  change percentDecode ('%' :: upperHexDigit (b.toNat / 16) :: upperHexDigit (b.toNat % 16) :: s) = _
  rw [percentDecode, hhigh, hlow]
  simp only [Nat.div_add_mod, UInt8.ofNat_toNat]

theorem percentDecode_encodeBytes (bytes : List UInt8) (s : List Char) :
    percentDecode (bytes.flatMap encodeByte ++ s) = bytes ++ percentDecode s := by
  induction bytes with
  | nil => rfl
  | cons b bytes ih =>
    rw [List.flatMap_cons, List.append_assoc, percentDecode_encodeByte, ih]
    rfl

theorem percentDecode_cons {c : Char} (hc : c ≠ '%') (s : List Char) :
    percentDecode (c :: s) = String.utf8EncodeChar c ++ percentDecode s := by
  rw [percentDecode]
  intro a b rest he
  exact absurd he hc

theorem percentDecode_encodeChar {set : Char → Bool} {c : Char} (hc : c ≠ '%') (s : List Char) :
    percentDecode (encodeChar set c ++ s) = String.utf8EncodeChar c ++ percentDecode s := by
  rw [encodeChar]
  split
  · exact percentDecode_encodeBytes _ s
  · exact percentDecode_cons hc s

theorem exists_utf8EncodeChar (c : Char) :
    ∃ b bytes, String.utf8EncodeChar c = b :: bytes :=
  List.exists_cons_of_length_pos (String.length_utf8EncodeChar c ▸ c.utf8Size_pos)

/-- The text does not start with two digits, behind which a percent sign would not count. -/
def NoDigits (s : List Char) : Prop :=
  ∀ a b rest, s = a :: b :: rest → hexDigitValue? a = none ∨ hexDigitValue? b = none

theorem percentDecode_percent {s : List Char} (h : NoDigits s) :
    percentDecode ('%' :: s) = String.utf8EncodeChar '%' ++ percentDecode s := by
  rcases s with _ | ⟨a, _ | ⟨b, rest⟩⟩
  · rfl
  · rfl
  · rw [percentDecode]
    split
    · rename_i ha hb
      rcases h a b rest rfl with hn | hn
      · cases hn.symm.trans ha
      · cases hn.symm.trans hb
    · rfl

/-- What is encoded are neither percent signs nor digits. -/
def KeepsPercents (set : Char → Bool) : Prop :=
  ∀ c, c = '%' ∨ (hexDigitValue? c).isSome = true → set c = false

theorem percentEncode_cons_of_not {set : Char → Bool} {c : Char} (hc : set c = false)
    (s : List Char) : percentEncode set (c :: s) = c :: percentEncode set s := by
  rw [percentEncode, List.flatMap_cons, encodeChar, hc]
  rfl

theorem head_percentEncode (set : Char → Bool) (c : Char) (s : List Char) :
    (set c = false ∧ percentEncode set (c :: s) = c :: percentEncode set s) ∨
      ∃ rest, percentEncode set (c :: s) = '%' :: rest := by
  cases hc : set c with
  | false => exact .inl ⟨rfl, percentEncode_cons_of_not hc s⟩
  | true =>
    obtain ⟨b, bytes, hb⟩ := exists_utf8EncodeChar c
    rw [percentEncode, List.flatMap_cons, encodeChar, hc, hb]
    exact .inr ⟨_, rfl⟩

theorem NoDigits.percentEncode {s : List Char} (h : NoDigits s) (set : Char → Bool) :
    NoDigits (percentEncode set s) := by
  intro a b rest he
  rcases s with _ | ⟨c, s⟩
  · cases he
  rcases head_percentEncode set c s with ⟨-, hc⟩ | ⟨_, hc⟩
  · obtain ⟨rfl, hs⟩ := List.cons.inj (hc.symm.trans he)
    rcases s with _ | ⟨d, s⟩
    · cases hs
    rcases head_percentEncode set d s with ⟨-, hd⟩ | ⟨_, hd⟩
    · obtain ⟨rfl, -⟩ := List.cons.inj (hd.symm.trans hs)
      exact h c d s rfl
    · obtain ⟨rfl, -⟩ := List.cons.inj (hd.symm.trans hs)
      exact .inr rfl
  · obtain ⟨rfl, -⟩ := List.cons.inj (hc.symm.trans he)
    exact .inl rfl

/-- A text stands for the same when it is encoded. -/
theorem percentDecode_percentEncode {set : Char → Bool} (hset : KeepsPercents set)
    (s : List Char) : percentDecode (percentEncode set s) = percentDecode s := by
  fun_induction percentDecode s with
  | case1 => rfl
  | case2 a b rest x y hb ha ih =>
    rw [percentEncode_cons_of_not (hset _ (.inl rfl)),
      percentEncode_cons_of_not (hset a (.inr (by rw [ha]; rfl))),
      percentEncode_cons_of_not (hset b (.inr (by rw [hb]; rfl))), percentDecode, ha, hb]
    simp only [ih]
  | case3 a b rest hn ih =>
    -- a percent sign that no digits follow stands for itself, and none follow it afterwards
    have hdigits : NoDigits (a :: b :: rest) := by
      rintro _ _ _ ⟨rfl, rfl, rfl⟩
      cases ha : hexDigitValue? a with
      | none => exact .inl rfl
      | some x =>
        cases hb : hexDigitValue? b with
        | none => exact .inr rfl
        | some y => exact (hn x y ha hb).elim
    rw [percentEncode_cons_of_not (hset _ (.inl rfl)),
      percentDecode_percent (hdigits.percentEncode set), ih]
  | case4 c rest hn ih =>
    by_cases hc : c = '%'
    · subst hc
      have hdigits : NoDigits rest := fun a b rest' he => (hn a b rest' rfl he).elim
      rw [percentEncode_cons_of_not (hset _ (.inl rfl)),
        percentDecode_percent (hdigits.percentEncode set), ih]
    · rw [percentEncode, List.flatMap_cons, percentDecode_encodeChar hc, ← percentEncode, ih]

/-- The value of a digit, and the digit up to its case. -/
theorem hexDigitValue?_eq_some {c : Char} {n : Nat} (h : hexDigitValue? c = some n) :
    n < 16 ∧ c.toLower.toNat = if n < 10 then 48 + n else 87 + n := by
  simp only [hexDigitValue?, Char.le_def, UInt32.le_iff_toNat_le] at h
  change (if 48 ≤ c.toNat ∧ c.toNat ≤ 57 then some (c.toNat - 48)
    else if 97 ≤ c.toNat ∧ c.toNat ≤ 102 then some (c.toNat - 87)
    else if 65 ≤ c.toNat ∧ c.toNat ≤ 70 then some (c.toNat - 55) else none) = some n at h
  rw [toNat_toLower]
  split_ifs at h ⊢ <;> cases h <;> omega

/-- Bytes below 128 are ASCII characters by themselves. -/
theorem toNat_of_utf8EncodeChar {c : Char} {b : UInt8} {bytes : List UInt8} (hb : b.toNat < 128)
    (h : String.utf8EncodeChar c = b :: bytes) : c.toNat = b.toNat ∧ bytes = [] := by
  simp only [String.utf8EncodeChar] at h
  split_ifs at h with hascii <;> obtain ⟨rfl, rfl⟩ := List.cons.inj h <;>
    rw [UInt8.toNat_ofNat'] at hb
  · have hc : c.toNat ≤ 127 := hascii
    refine ⟨?_, rfl⟩
    rw [UInt8.toNat_ofNat']
    exact (Nat.mod_eq_of_lt (Nat.lt_of_le_of_lt hc (by decide))).symm
  all_goals omega

/-- What starts with a dot as it is read starts with a dot, plain or encoded. -/
theorem of_percentDecode_dot {s : List Char} {bytes : List UInt8}
    (h : percentDecode s = 46 :: bytes) : ∃ dot rest, s = dot ++ rest ∧
      percentDecode rest = bytes ∧ isSingleDot dot = true := by
  revert h
  fun_cases percentDecode s with
  | case1 => nofun
  | case2 a b rest x y hb ha =>
    intro h
    obtain ⟨hbyte, rfl⟩ := List.cons.inj h
    obtain ⟨hx, ha⟩ := hexDigitValue?_eq_some ha
    obtain ⟨hy, hb⟩ := hexDigitValue?_eq_some hb
    have hvalue : 16 * x + y = 46 := by
      have := congrArg UInt8.toNat hbyte
      rw [UInt8.toNat_ofNat'] at this
      simp at this
      omega
    obtain rfl : x = 2 := by omega
    obtain rfl : y = 14 := by omega
    refine ⟨['%', a, b], rest, rfl, rfl, ?_⟩
    have ha' : a.toLower = '2' := Char.toNat_inj.mp ha
    have hb' : b.toLower = 'e' := Char.toNat_inj.mp hb
    rw [isSingleDot, List.map_cons, List.map_cons, List.map_cons, ha', hb']
    rfl
  | case3 a b rest hn => nofun
  | case4 c rest hn =>
    intro h
    by_cases hc : c = '%'
    · subst hc
      exact absurd (List.cons.inj h).1 (by decide)
    · obtain ⟨b, more, hb⟩ := exists_utf8EncodeChar c
      rw [hb] at h
      obtain ⟨rfl, hmore⟩ := List.cons.inj h
      obtain ⟨hdot, rfl⟩ := toNat_of_utf8EncodeChar (by decide) hb
      obtain rfl : c = '.' := Char.toNat_inj.mp hdot
      exact ⟨['.'], rest, rfl, hmore, by decide⟩

theorem percentDecode_eq_nil {s : List Char} (h : percentDecode s = []) : s = [] := by
  revert h
  fun_cases percentDecode s with
  | case1 => exact fun _ => rfl
  | case2 => nofun
  | case3 => nofun
  | case4 c rest hn =>
    intro h
    obtain ⟨b, bytes, hb⟩ := exists_utf8EncodeChar c
    rw [hb] at h
    cases h

theorem isSingleDot_of_percentDecode {s : Segment} (h : percentDecode s = percentDecode ['.']) :
    isSingleDot s = true := by
  obtain ⟨dot, rest, rfl, hrest, hdot⟩ := of_percentDecode_dot h
  rw [percentDecode_eq_nil hrest, List.append_nil]
  exact hdot

theorem isDoubleDot_of_percentDecode {s : Segment}
    (h : percentDecode s = percentDecode ['.', '.']) : isDoubleDot s = true := by
  obtain ⟨dot, rest, rfl, hrest, hdot⟩ := of_percentDecode_dot h
  obtain ⟨dot', rest', rfl, hrest', hdot'⟩ := of_percentDecode_dot hrest
  rw [percentDecode_eq_nil hrest', List.append_nil, isDoubleDot, List.map_append]
  simp only [isSingleDot, decide_eq_true_iff, List.mem_cons, List.not_mem_nil, or_false] at hdot hdot'
  rcases hdot with hdot | hdot <;> rcases hdot' with hdot' | hdot' <;> rw [hdot, hdot'] <;> rfl

theorem not_dots_of_colon {s : Segment} (hc : ':' ∈ s) :
    isSingleDot s = false ∧ isDoubleDot s = false := by
  have hlower : ':' ∈ s.map Char.toLower := List.mem_map_of_mem hc
  have hnot : ∀ dots : List Segment, (∀ d ∈ dots, ':' ∉ d) → s.map Char.toLower ∉ dots :=
    fun dots hd hm => hd _ hm hlower
  exact ⟨decide_eq_false (hnot _ (by decide)), decide_eq_false (hnot _ (by decide))⟩

end GuestNet.Url
