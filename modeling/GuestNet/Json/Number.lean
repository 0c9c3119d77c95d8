import GuestNet.Json.Reader

/-! Numbers. An integer keeps its value while it fits 64 bits; any other number is floating point,
from as many leading digits as fit 64 bits and a power of ten. -/
namespace GuestNet.Json

inductive Number where
  | natural (value : Nat)
  /-- The integer `-value`; the value is positive. -/
  | negative (value : Nat)
  | floating (isNegative : Bool) (value : Decimal.Magnitude)
deriving DecidableEq, Repr

namespace Number

def found : Number → Found
  | natural value => .natural value
  | negative value => .negative value
  | floating isNegative value => .floating isNegative value

def splitDigits (s : List Char) : List Char × List Char :=
  (s.takeWhile Char.isDigit, s.dropWhile Char.isDigit)

/-- Appends digits to a value as long as it stays within a limit, and gives the digits left. -/
def absorb (limit : Nat) : Nat → List Char → Nat × List Char
  | n, [] => (n, [])
  | n, d :: ds =>
    let next := n * 10 + Decimal.digitValue d
    if next > limit then (n, d :: ds) else absorb limit next ds

def greatestNatural : Nat := 0xFFFFFFFFFFFFFFFF

def greatestExponent : Nat := 0x7FFFFFFF

/-- A floating-point number that ends where `rest` starts. -/
def finish (isNegative : Bool) (significand : Nat) (exponent : Int) (rest : List Char) :
    Except Fault (Number × List Char) :=
  match Decimal.Magnitude.ofDecimal? significand exponent with
  | none => .error (.before .numberOutOfRange rest)
  | some value => .ok (.floating isNegative value, rest)

/-- Whether an exponent is negative, and what follows its sign. -/
def exponentSign : List Char → Bool × List Char
  | '+' :: rest => (false, rest)
  | '-' :: rest => (true, rest)
  | s => (false, s)

/-- Reads the exponent of a number from after its mark. Too large an exponent makes the number
zero, if its sign or the significand allows. -/
def exponentPart (isNegative : Bool) (significand : Nat) (exponent : Int) (s : List Char) :
    Except Fault (Number × List Char) :=
  let (isSmall, s) := exponentSign s
  match splitDigits s with
  | ([], []) => .error (.before .endInValue [])
  | ([], rest) => .error (.onto .invalidNumber rest)
  | (ds, rest) =>
    match absorb greatestExponent 0 ds with
    | (e, []) => finish isNegative significand (if isSmall then exponent - e else exponent + e) rest
    | (_, left) =>
      if significand ≠ 0 ∧ ¬ isSmall then .error (.onto .numberOutOfRange (left ++ rest))
      else .ok (.floating isNegative .zero, rest)

def isExponentMark (c : Char) : Bool := c = 'e' || c = 'E'

/-- Reads the places of a number from after the point. -/
def placesPart (isNegative : Bool) (significand : Nat) (exponent : Int) (s : List Char) :
    Except Fault (Number × List Char) :=
  match splitDigits s with
  | ([], []) => .error (.onto .endInValue [])
  | ([], rest) => .error (.onto .invalidNumber rest)
  | (ds, rest) =>
    let (significand, left) := absorb greatestNatural significand ds
    let exponent := exponent - (ds.length - left.length : Nat)
    match rest with
    | c :: more =>
      if isExponentMark c then exponentPart isNegative significand exponent more
      else finish isNegative significand exponent rest
    | [] => finish isNegative significand exponent rest

def ofInteger (isNegative : Bool) (n : Nat) : Number :=
  if ¬ isNegative then .natural n
  else if n = 0 ∨ 0x8000000000000000 < n then
    .floating true ((Decimal.Magnitude.nearest? n 1).getD .zero)
  else .negative n

/-- Reads what follows the whole digits of a number. -/
def afterWhole (isNegative : Bool) (significand : Nat) (left rest : List Char) :
    Except Fault (Number × List Char) :=
  let whole :=
    if left = [] then .ok (ofInteger isNegative significand, rest)
    else finish isNegative significand left.length rest
  match rest with
  | '.' :: more => placesPart isNegative significand left.length more
  | c :: more =>
    if isExponentMark c then exponentPart isNegative significand left.length more else whole
  | [] => whole

/-- Reads a number from after its sign. A zero can only stand alone before the point. -/
def read (isNegative : Bool) (s : List Char) : Except Fault (Number × List Char) :=
  match splitDigits s with
  | ([], []) => .error (.before .endInValue [])
  | ([], rest) => .error (.onto .invalidNumber rest)
  | ('0' :: d :: ds, rest) => .error (.onto .invalidNumber (d :: ds ++ rest))
  | (ds, rest) =>
    let (significand, left) := absorb greatestNatural 0 ds
    afterWhole isNegative significand left rest

end Number

theorem splitDigits_length (s : List Char) :
    (Number.splitDigits s).1.length + (Number.splitDigits s).2.length = s.length := by
  have h := List.takeWhile_append_dropWhile (p := Char.isDigit) (l := s)
  simp only [Number.splitDigits]
  rw [← List.length_append, h]

/-- Passes over the exponent of a number, from after its mark. -/
def skipExponent (s : List Char) : Except Fault (List Char) :=
  match Number.splitDigits (Number.exponentSign s).2 with
  | ([], rest) => .error (.onto .invalidNumber rest)
  | (_, rest) => .ok rest

namespace Number

theorem finish_rest {isNegative : Bool} {n : Nat} {e : Int} {s rest : List Char} {x : Number}
    (h : finish isNegative n e s = .ok (x, rest)) : rest = s := by
  unfold finish at h
  split at h
  · cases h
  · cases h; rfl

theorem exponentPart_length_le {isNegative : Bool} {n : Nat} {e : Int} {s rest : List Char}
    {x : Number} (h : exponentPart isNegative n e s = .ok (x, rest)) : rest.length ≤ s.length := by
  have hs : (exponentSign s).2.length ≤ s.length := by
    unfold exponentSign
    split <;> simp
  have hl := splitDigits_length (exponentSign s).2
  unfold exponentPart at h
  simp only at h
  split at h
  · cases h
  · cases h
  · rename_i eq
    simp only [eq] at hl
    split at h
    · rw [finish_rest h]
      omega
    · split at h
      · cases h
      · cases h
        omega

theorem placesPart_length_le {isNegative : Bool} {n : Nat} {e : Int} {s rest : List Char}
    {x : Number} (h : placesPart isNegative n e s = .ok (x, rest)) : rest.length ≤ s.length := by
  have hl := splitDigits_length s
  unfold placesPart at h
  split at h
  · cases h
  · cases h
  · rename_i eq
    simp only [eq] at hl
    simp only at h
    split at h
    · split at h
      · have := exponentPart_length_le h
        simp only [List.length_cons] at hl
        omega
      · rw [finish_rest h]
        omega
    · rw [finish_rest h]
      omega

theorem afterWhole_length_le {isNegative : Bool} {n : Nat} {left s rest : List Char}
    {x : Number} (h : afterWhole isNegative n left s = .ok (x, rest)) :
    rest.length ≤ s.length := by
  have whole {s : List Char} (h : (if left = [] then .ok (ofInteger isNegative n, s)
      else finish isNegative n left.length s) = Except.ok (x, rest)) : rest = s := by
    split at h
    · cases h; rfl
    · exact finish_rest h
  unfold afterWhole at h
  simp only at h
  split at h
  · have := placesPart_length_le h
    simp only [List.length_cons]
    omega
  · split at h
    · have := exponentPart_length_le h
      simp only [List.length_cons]
      omega
    · exact Nat.le_of_eq (congrArg List.length (whole h))
  · exact Nat.le_of_eq (congrArg List.length (whole h))

theorem read_length_le {isNegative : Bool} {s rest : List Char} {x : Number}
    (h : read isNegative s = .ok (x, rest)) : rest.length ≤ s.length := by
  have hl := splitDigits_length s
  unfold read at h
  split at h
  · cases h
  · cases h
  · cases h
  · rename_i eq
    simp only [eq] at hl
    have := afterWhole_length_le h
    omega

end Number

theorem exponentSign_length_le (s : List Char) :
    (Number.exponentSign s).2.length ≤ s.length := by
  unfold Number.exponentSign
  split <;> simp

theorem skipExponent_length_le {s rest : List Char} (h : skipExponent s = .ok rest) :
    rest.length ≤ s.length := by
  have hs := exponentSign_length_le s
  have hl := splitDigits_length (Number.exponentSign s).2
  unfold skipExponent at h
  split at h
  · cases h
  · rename_i e
    cases h
    simp only [e] at hl
    omega

/-- Passes over an exponent, if there is one. -/
def skipExponentPart (s : List Char) : Except Fault (List Char) :=
  match s with
  | c :: rest => if Number.isExponentMark c then skipExponent rest else .ok s
  | [] => .ok s

theorem skipExponentPart_length_le {s rest : List Char} (h : skipExponentPart s = .ok rest) :
    rest.length ≤ s.length := by
  unfold skipExponentPart at h
  split at h
  · split at h
    · have := skipExponent_length_le h
      simp only [List.length_cons]
      omega
    · cases h
      exact Nat.le_refl _
  · cases h
    exact Nat.le_refl _

/-- Passes over a number from after its sign. -/
def skipNumber (s : List Char) : Except Fault (List Char) :=
  match Number.splitDigits s with
  | ([], rest) => .error (.onto .invalidNumber rest)
  | ('0' :: d :: ds, rest) => .error (.onto .invalidNumber (d :: ds ++ rest))
  | (_, rest) =>
    match rest with
    | '.' :: more =>
      match Number.splitDigits more with
      | ([], after) => .error (.onto .invalidNumber after)
      | (_, after) => skipExponentPart after
    | _ => skipExponentPart rest

theorem skipNumber_length {s rest : List Char} (h : skipNumber s = .ok rest) :
    rest.length < s.length := by
  have hl := splitDigits_length s
  unfold skipNumber at h
  split at h
  · cases h
  · cases h
  · rename_i ds r hne _ e
    have hpos : 0 < ds.length := by
      cases ds with
      | nil => exact (hne rfl).elim
      | cons => simp
    rw [e] at hl
    simp only at hl
    split at h
    · rename_i more
      have hm := splitDigits_length more
      split at h
      · cases h
      · rename_i ds' after _ e'
        rw [e'] at hm
        have := skipExponentPart_length_le h
        simp only [List.length_cons] at hl hm
        omega
    · have := skipExponentPart_length_le h
      omega

end GuestNet.Json
