import GuestNet.Json.Printer
import GuestNet.Json.Scalar
import Mathlib.Tactic.SplitIfs

/-! What is written for a single value reads back as that value: texts with any characters, numbers
of up to 64 bits, flags, and values that may be absent. A reader stops where the written value ends,
which holds for numbers because of what can follow them. -/
namespace GuestNet.Json

/-- What may follow a written value: the end, a comma or a closing bracket. -/
inductive Follows : List Char → Prop where
  | nothing : Follows []
  | comma (rest : List Char) : Follows (',' :: rest)
  | endOfList (rest : List Char) : Follows (']' :: rest)
  | endOfObject (rest : List Char) : Follows ('\x7d' :: rest)

/-- A reader takes what is written for a value, and leaves what follows. -/
def ReadsBack {α : Type} (reader : Reader α) (written : List Char) (v : α) : Prop :=
  ∀ rest, Follows rest → reader (written ++ rest) = .ok (v, rest)

theorem skipBlanks_cons {c : Char} (hc : isBlank c = false) (s : List Char) :
    skipBlanks (c :: s) = c :: s := by
  rw [skipBlanks, List.dropWhile_cons_of_neg (by simpa using hc)]

theorem hexValue?_hexDigit {n : Nat} (hn : n < 16) : hexValue? (hexDigit n) = some n := by
  have all : ∀ n < 16, hexValue? (hexDigit n) = some n := by decide
  exact all n hn

theorem hexUnit_of_hexValue? {a b c d : Char} {x y z w : Nat} (ha : hexValue? a = some x)
    (hb : hexValue? b = some y) (hc : hexValue? c = some z) (hd : hexValue? d = some w)
    (rest : List Char) :
    hexUnit (a :: b :: c :: d :: rest) = .ok (((x * 16 + y) * 16 + z) * 16 + w, rest) := by
  have hsize : ¬ byteCount (a :: b :: c :: d :: rest) < 4 := by
    have := a.utf8Size_pos
    have := b.utf8Size_pos
    have := c.utf8Size_pos
    have := d.utf8Size_pos
    simp only [byteCount, List.foldr_cons]
    omega
  rw [hexUnit, if_neg hsize]
  simp only [ha, hb, hc, hd]

/-- Two digits are enough for a character below the space. -/
theorem escape_control {c : Char} (hc : c.toNat < 0x20) (rest : List Char) :
    escape ('u' :: '0' :: '0' :: hexDigit (c.toNat / 16) :: hexDigit (c.toNat % 16) :: rest) =
      .ok (c, rest) := by
  have hzero : hexValue? '0' = some 0 := rfl
  have hhigh : hexValue? (hexDigit (c.toNat / 16)) = some (c.toNat / 16) :=
    hexValue?_hexDigit (by omega)
  have hlow : hexValue? (hexDigit (c.toNat % 16)) = some (c.toNat % 16) :=
    hexValue?_hexDigit (by omega)
  have hunit := hexUnit_of_hexValue? hzero hzero hhigh hlow rest
  have hvalue : ((0 * 16 + 0) * 16 + c.toNat / 16) * 16 + c.toNat % 16 = c.toNat := by omega
  have htrailing : isTrailing c.toNat = false := by
    simp only [isTrailing, Bool.and_eq_false_iff, decide_eq_false_iff_not]
    omega
  have hleading : isLeading c.toNat = false := by
    simp only [isLeading, Bool.and_eq_false_iff, decide_eq_false_iff_not]
    omega
  rw [hvalue] at hunit
  simp [escape, unicodeEscape, hunit, htrailing, hleading]

/-- A character is written as itself, or as an escape that stands for it. -/
theorem writeChar_cases (c : Char) :
    writeChar c = [c] ∧ c ≠ '"' ∧ c ≠ '\\' ∧ ¬ c.toNat < 0x20 ∨
      ∃ e, writeChar c = '\\' :: e ∧ ∀ rest, escape (e ++ rest) = .ok (c, rest) := by
  unfold writeChar
  split_ifs with hquote hback hcontrol hb ht hn hf hr
  · exact .inr ⟨_, rfl, fun rest => by rw [hquote]; rfl⟩
  · exact .inr ⟨_, rfl, fun rest => by rw [hback]; rfl⟩
  · exact .inr ⟨_, rfl, fun rest => by rw [hb]; rfl⟩
  · exact .inr ⟨_, rfl, fun rest => by rw [ht]; rfl⟩
  · exact .inr ⟨_, rfl, fun rest => by rw [hn]; rfl⟩
  · exact .inr ⟨_, rfl, fun rest => by rw [hf]; rfl⟩
  · exact .inr ⟨_, rfl, fun rest => by rw [hr]; rfl⟩
  · exact .inr ⟨_, rfl, escape_control hcontrol⟩
  · exact .inl ⟨rfl, hquote, hback, hcontrol⟩

theorem text_go_writeChar (c : Char) (rest done : List Char) :
    text.go (writeChar c ++ rest) done = text.go rest (c :: done) := by
  rcases writeChar_cases c with ⟨hw, hquote, hback, hcontrol⟩ | ⟨e, hw, he⟩
  · rw [hw, List.singleton_append, text.go]
    · rw [if_neg hcontrol]
    · exact hquote
    · exact hback
  · rw [hw, List.cons_append, text.go]
    grind

theorem text_go_written (s rest done : List Char) :
    text.go (s.flatMap writeChar ++ '"' :: rest) done =
      .ok (String.ofList (done.reverse ++ s), rest) := by
  induction s generalizing done with
  | nil => rw [List.flatMap_nil, List.nil_append, text.go, List.append_nil]
  | cons c s ih =>
    rw [List.flatMap_cons, List.append_assoc, text_go_writeChar, ih, List.reverse_cons,
      List.append_assoc, List.singleton_append]

/-- A text reads back from after its opening quote. -/
theorem text_written (s : String) (rest : List Char) :
    text (s.toList.flatMap writeChar ++ '"' :: rest) = .ok (s, rest) := by
  rw [text, text_go_written, List.reverse_nil, List.nil_append, String.ofList_toList]

theorem string_written (s : String) : ReadsBack string (writeText s) s := by
  intro rest _
  have hw : writeText s ++ rest = '"' :: (s.toList.flatMap writeChar ++ '"' :: rest) := by
    simp [writeText]
  rw [hw, string, skipBlanks_cons rfl]
  exact text_written s rest

theorem flag_written (b : Bool) : ReadsBack flag (writeFlag b) b := by
  intro rest _
  cases b <;> rfl

namespace Number

theorem splitDigits_append {ds rest : List Char} (hds : ∀ c ∈ ds, c.isDigit = true)
    (hrest : ∀ c ∈ rest.head?, c.isDigit = false) : splitDigits (ds ++ rest) = (ds, rest) := by
  have hstop : rest.takeWhile Char.isDigit = [] ∧ rest.dropWhile Char.isDigit = rest := by
    cases rest with
    | nil => exact ⟨rfl, rfl⟩
    | cons c rest =>
      have hc : c.isDigit = false := hrest c rfl
      simp [hc]
  rw [splitDigits, List.takeWhile_append_of_pos hds, List.dropWhile_append_of_pos hds, hstop.1,
    hstop.2, List.append_nil]

theorem le_foldl (n : Nat) (ds : List Char) :
    n ≤ ds.foldl (fun n d => 10 * n + Decimal.digitValue d) n := by
  induction ds generalizing n with
  | nil => exact Nat.le_refl n
  | cons d ds ih =>
    have h : n ≤ 10 * n + Decimal.digitValue d := by omega
    exact Nat.le_trans h (ih _)

/-- Digits are absorbed if all of them together stay within the limit. -/
theorem absorb_of_le {limit n : Nat} {ds : List Char}
    (h : ds.foldl (fun n d => 10 * n + Decimal.digitValue d) n ≤ limit) :
    absorb limit n ds = (ds.foldl (fun n d => 10 * n + Decimal.digitValue d) n, []) := by
  induction ds generalizing n with
  | nil => rfl
  | cons d ds ih =>
    have hnext : n * 10 + Decimal.digitValue d = 10 * n + Decimal.digitValue d := by omega
    have hle : 10 * n + Decimal.digitValue d ≤ limit := Nat.le_trans (le_foldl _ ds) h
    rw [absorb, hnext, if_neg (Nat.not_lt.mpr hle)]
    exact ih h

/-- Digits that may stand as they are are absorbed, as many as fit. -/
theorem read_eq_afterWhole {ds rest : List Char} (hne : ds ≠ [])
    (hzero : ∀ d more, ds ≠ '0' :: d :: more) (hds : ∀ c ∈ ds, c.isDigit = true)
    (hrest : ∀ c ∈ rest.head?, c.isDigit = false) (isNegative : Bool) :
    read isNegative (ds ++ rest) = afterWhole isNegative (absorb greatestNatural 0 ds).1
      (absorb greatestNatural 0 ds).2 rest := by
  rw [read, splitDigits_append hds hrest]
  split
  · rename_i h
    exact absurd (Prod.mk.inj h).1 hne
  · rename_i h
    exact absurd (Prod.mk.inj h).1 hne
  · rename_i h
    exact absurd (Prod.mk.inj h).1 (hzero _ _)
  · rename_i h
    obtain ⟨rfl, rfl⟩ := Prod.mk.inj h
    rfl

/-- Digits that are not too many read as their value. -/
theorem read_of_digits {ds rest : List Char} (hne : ds ≠ [])
    (hzero : ∀ d more, ds ≠ '0' :: d :: more) (hds : ∀ c ∈ ds, c.isDigit = true)
    (hvalue : Decimal.value ds ≤ greatestNatural) (hr : Follows rest) :
    read false (ds ++ rest) = .ok (.natural (Decimal.value ds), rest) := by
  have hafter : afterWhole false (Decimal.value ds) [] rest =
      .ok (.natural (Decimal.value ds), rest) := by
    cases hr <;> rfl
  have hstop : ∀ c ∈ rest.head?, c.isDigit = false := by
    cases hr <;> rintro c ⟨⟩ <;> rfl
  rw [read_eq_afterWhole hne hzero hds hstop, absorb_of_le hvalue]
  exact hafter

end Number

/-- No number but zero is written with a zero first. -/
theorem exists_cons_digits {n : Nat} (hn : n ≠ 0) :
    ∃ d ds, Decimal.digits n = d :: ds ∧ d ≠ '0' := by
  rw [Decimal.digits]
  split
  · rename_i hlt
    have all : ∀ n < 10, n ≠ 0 → Decimal.digit n ≠ '0' := by decide
    exact ⟨_, [], rfl, all n hlt hn⟩
  · obtain ⟨d, ds, hds, hd⟩ := exists_cons_digits (n := n / 10) (by omega)
    exact ⟨d, ds ++ [Decimal.digit (n % 10)], by rw [hds, List.cons_append], hd⟩
termination_by n
decreasing_by omega

theorem digits_shape (n : Nat) :
    Decimal.digits n ≠ [] ∧ ∀ d more, Decimal.digits n ≠ '0' :: d :: more := by
  by_cases hzero : n = 0
  · subst hzero
    rw [Decimal.digits]
    simp
  · obtain ⟨d, ds, hds, hd⟩ := exists_cons_digits hzero
    rw [hds]
    simp [hd]

theorem read_digits {n : Nat} (hn : n ≤ Number.greatestNatural) {rest : List Char}
    (hr : Follows rest) :
    Number.read false (Decimal.digits n ++ rest) = .ok (.natural n, rest) := by
  obtain ⟨hne, hzero⟩ := digits_shape n
  have hread := Number.read_of_digits hne hzero (fun _ => Decimal.isDigit_of_mem_digits)
    (by rwa [Decimal.value_digits]) hr
  rwa [Decimal.value_digits] at hread

/-- A digit is neither a blank nor anything else by which another value is known. -/
theorem ne_of_isDigit {c d : Char} (hc : c.isDigit = true) (hd : d.isDigit = false) : c ≠ d := by
  rintro rfl
  cases hc.symm.trans hd

theorem isBlank_of_isDigit {c : Char} (hc : c.isDigit = true) : isBlank c = false := by
  have hne (d : Char) (hd : d.isDigit = false) : c ≠ d := ne_of_isDigit hc hd
  simp [isBlank, hne ' ' rfl, hne '\n' rfl, hne '\t' rfl, hne '\r' rfl]

theorem natural_of_isDigit {c : Char} (hc : c.isDigit = true) (expected : String)
    (s : List Char) :
    natural expected (c :: s) = acceptNatural expected (Number.read false (c :: s)) := by
  rw [natural, skipBlanks_cons (isBlank_of_isDigit hc)]
  split
  · rename_i h
    cases h
  · rename_i h
    exact absurd (List.cons.inj h).1 (ne_of_isDigit hc rfl)
  · rename_i h
    obtain ⟨rfl, rfl⟩ := List.cons.inj h
    rw [if_pos hc]

theorem exists_digit_writeNatural (n : Nat) :
    ∃ c ds, writeNatural n = c :: ds ∧ c.isDigit = true := by
  obtain ⟨c, ds, hds⟩ := List.exists_cons_of_ne_nil (digits_shape n).1
  have hc : c ∈ Decimal.digits n := by
    rw [hds]
    exact List.mem_cons_self
  exact ⟨c, ds, hds, Decimal.isDigit_of_mem_digits hc⟩

theorem natural_written {n : Nat} (hn : n ≤ Number.greatestNatural) (expected : String) :
    ReadsBack (natural expected) (writeNatural n) n := by
  intro rest hr
  have hread := read_digits hn hr
  rw [← writeNatural] at hread
  obtain ⟨c, ds, hds, hc⟩ := exists_digit_writeNatural n
  rw [hds] at hread ⊢
  rw [List.cons_append, natural_of_isDigit hc, ← List.cons_append, hread]
  rfl

theorem optional_of_ne {α : Type} (reader : Reader α) {c : Char} (hb : isBlank c = false)
    (hc : c ≠ 'n') (s : List Char) :
    optional reader (c :: s) = (reader (c :: s)).map fun (value, rest) => (some value, rest) := by
  rw [optional, skipBlanks_cons hb]
  split
  · rename_i heq
    exact absurd (List.cons.inj heq).1 hc
  · rfl

/-- A written value that is not `null` reads back where it may also be absent. -/
theorem ReadsBack.optional {α : Type} {reader : Reader α} {c : Char} {s : List Char} {v : α}
    (h : ReadsBack reader (c :: s) v) (hb : isBlank c = false) (hc : c ≠ 'n') :
    ReadsBack (optional reader) (c :: s) (some v) := by
  intro rest hr
  rw [List.cons_append, optional_of_ne reader hb hc, ← List.cons_append, h rest hr]
  rfl

theorem optional_string_written (s : String) :
    ReadsBack (optional string) (writeText s) (some s) :=
  (string_written s).optional rfl (by decide)

end GuestNet.Json
