/-! Code points beyond ASCII written with letters, digits and hyphens: the ASCII characters of a
label first, then, as numbers in a variable base, where the others go. -/
namespace GuestNet.Idna.Punycode

/-- The digits `a` to `z` and then `0` to `9`. -/
def digit (n : Nat) : Char := if n < 26 then Char.ofNat (97 + n) else Char.ofNat (22 + n)

def digitValue? (c : Char) : Option Nat :=
  if 'a' ≤ c ∧ c ≤ 'z' then some (c.toNat - 97)
  else if 'A' ≤ c ∧ c ≤ 'Z' then some (c.toNat - 65)
  else if '0' ≤ c ∧ c ≤ '9' then some (c.toNat - 22)
  else none

/-- The steps by which a difference is divided until it is small, and what remains. -/
def settle (delta k : Nat) : Nat × Nat :=
  if 455 < delta then settle (delta / 35) (k + 36) else (delta, k)
termination_by delta

/-- The bias for the next number, from the last one and the count of code points so far. -/
def adapt (delta count : Nat) (isFirst : Bool) : Nat :=
  let delta := if isFirst then delta / 700 else delta / 2
  let (delta, k) := settle (delta + delta / count) 0
  k + 36 * delta / (delta + 38)

def threshold (k bias : Nat) : Nat := min 26 (max 1 (k - bias))

theorem threshold_pos (k bias : Nat) : 0 < threshold k bias := by
  unfold threshold
  omega

theorem threshold_le (k bias : Nat) : threshold k bias ≤ 26 := Nat.min_le_left _ _

/-- A number in the digits whose places depend on the bias. -/
def writeNumber (q k bias : Nat) : List Char :=
  let t := threshold k bias
  if q < t then [digit q]
  else digit (t + (q - t) % (36 - t)) :: writeNumber ((q - t) / (36 - t)) (k + 36) bias
termination_by q
decreasing_by
  have := threshold_pos k bias
  have := threshold_le k bias
  exact Nat.lt_of_le_of_lt (Nat.div_le_self _ _) (by omega)

/-- How far the writing of a label has come. -/
structure Writing where
  /-- All code points below this one are written. -/
  next : Nat
  delta : Nat
  bias : Nat
  handled : Nat
  isFirst : Bool
  output : List Char

/-- Writes the places of one code point, of which all smaller ones are written. -/
def writePoint (label : List Char) (w : Writing) (point : Nat) : Writing :=
  let w := { w with delta := w.delta + (point - w.next) * (w.handled + 1), next := point }
  let w := label.foldl (fun w c =>
    if c.toNat < point then { w with delta := w.delta + 1 }
    else if c.toNat = point then
      { w with
        output := w.output ++ writeNumber w.delta 36 w.bias
        bias := adapt w.delta (w.handled + 1) w.isFirst
        delta := 0
        handled := w.handled + 1
        isFirst := false }
    else w) w
  { w with delta := w.delta + 1, next := point + 1 }

def encode (label : List Char) : List Char :=
  let basic := label.filter (·.toNat < 0x80)
  let points := ((label.map Char.toNat).filter (0x80 ≤ ·)).mergeSort.eraseDups
  let start : Writing :=
    ⟨0x80, 0, 72, basic.length, true, if basic = [] then [] else basic ++ ['-']⟩
  (points.foldl (writePoint label) start).output

/-- Reads a number: its value and the rest. -/
def readNumber (bias : Nat) : Nat → Nat → Nat → List Char → Option (Nat × List Char)
  | _, _, _, [] => none
  | value, weight, k, c :: rest =>
    match digitValue? c with
    | none => none
    | some d =>
      let value := value + d * weight
      let t := threshold k bias
      if 0x100000000 ≤ value then none
      else if d < t then some (value, rest)
      else readNumber bias value (weight * (36 - t)) (k + 36) rest

/-- Puts the code points at their places; the fuel is the count of digits. -/
def readPoints : Nat → Nat → Nat → Nat → Bool → List Char → List Char → Option (List Char)
  | _, _, _, _, _, output, [] => some output
  | 0, _, _, _, _, _, _ => none
  | fuel + 1, next, index, bias, isFirst, output, s =>
    match readNumber bias index 1 36 s with
    | none => none
    | some (value, rest) =>
      let count := output.length + 1
      let point := next + value / count
      let place := value % count
      if h : point.isValidChar then
        readPoints fuel point (place + 1) (adapt (value - index) count isFirst) false
          (output.take place ++ Char.ofNatAux point h :: output.drop place) rest
      else none

/-- The ASCII characters before the last hyphen, and what follows it. -/
def splitBasic (s : List Char) : List Char × List Char :=
  match s.reverse.dropWhile (· ≠ '-') with
  | [] => ([], s)
  | _ :: basic => (basic.reverse, (s.reverse.takeWhile (· ≠ '-')).reverse)

def decode (s : List Char) : Option (List Char) :=
  let (basic, rest) := splitBasic s
  readPoints rest.length 0x80 0 72 true basic rest

end GuestNet.Idna.Punycode
