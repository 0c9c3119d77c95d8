import GuestNet.Url.Percent

/-! Internet addresses of eight pieces of sixteen bits, between colons, of which two in a row
stand for a run of zeros. The last two pieces may be an address of four decimal bytes. -/
namespace GuestNet.Url.Ipv6

/-- The value of one to four hexadecimal digits and what follows them. -/
def piece (s : List Char) : Nat × Nat × List Char :=
  go 4 0 0 s
where
  go : Nat → Nat → Nat → List Char → Nat × Nat × List Char
    | 0, value, count, s => (value, count, s)
    | _ + 1, value, count, [] => (value, count, [])
    | left + 1, value, count, c :: rest =>
      match hexDigitValue? c with
      | some d => go left (value * 16 + d) (count + 1) rest
      | none => (value, count, c :: rest)

/-- A decimal byte without zeros before it. -/
def decimalByte? (digits : List Char) : Option Nat :=
  if digits = [] ∨ ¬ digits.all Char.isDigit then none
  else if 1 < digits.length ∧ digits.head? = some '0' then none
  else
    let n := digits.foldl (fun n d => n * 10 + (d.toNat - 48)) 0
    if n ≤ 255 then some n else none

/-- The two pieces of an address of four decimal bytes. -/
def embedded? (s : List Char) : Option (List Nat) :=
  match (s.splitOn '.').mapM decimalByte? with
  | some [a, b, c, d] => some [a * 256 + b, c * 256 + d]
  | _ => none

/-- The pieces before and after the run of zeros, which may be absent. `after` is `none` until the
two colons have been read; they count for a piece. Both are in reverse. -/
def pieces? (fuel : Nat) (before : List Nat) (after : Option (List Nat)) (s : List Char) :
    Option (List Nat × Option (List Nat)) :=
  let count := before.length + (after.elim 0 (·.length + 1))
  let add (ns : List Nat) : List Nat × Option (List Nat) :=
    match after with
    | none => (ns.reverse ++ before, none)
    | some ms => (before, some (ns.reverse ++ ms))
  match fuel with
  | 0 => none
  | fuel + 1 =>
    match s with
    | [] => some (before, after)
    | ':' :: rest =>
      if count < 8 ∧ after = none then pieces? fuel before (some []) rest else none
    | s =>
      if 8 ≤ count then none
      else
        let (value, digits, rest) := piece s
        match rest with
        | '.' :: _ =>
          if digits = 0 ∨ 6 < count then none else (embedded? s).map add
        | ':' :: more =>
          if more = [] then none
          else
            let (before, after) := add [value]
            pieces? fuel before after more
        | [] =>
          let (before, after) := add [value]
          some (before, after)
        | _ => none

/-- The eight pieces. -/
def parse? (s : List Char) : Option (List Nat) :=
  let read :=
    match s with
    | ':' :: ':' :: rest => pieces? (s.length + 1) [] (some []) rest
    | ':' :: _ => none
    | _ => pieces? (s.length + 1) [] none s
  match read with
  | none => none
  | some (before, none) => if before.length = 8 then some before.reverse else none
  | some (before, some after) =>
    let zeros := 8 - (before.length + after.length)
    some (before.reverse ++ List.replicate zeros 0 ++ after.reverse)

/-- The length of the run of zeros at the start. -/
def zeroRun (pieces : List Nat) : Nat := (pieces.takeWhile (· = 0)).length

/-- The first of the longest runs of at least two zeros: where it starts and its length. -/
def longestZeros (pieces : List Nat) : Option (Nat × Nat) :=
  (List.range pieces.length).foldl (fun best i =>
    let run := zeroRun (pieces.drop i)
    if 2 ≤ run ∧ best.elim 0 (·.2) < run then some (i, run) else best) none

def writePieces (pieces : List Nat) : String :=
  ":".intercalate (pieces.map fun n => String.ofList (Nat.toDigits 16 n))

def write (pieces : List Nat) : String :=
  match longestZeros pieces with
  | none => writePieces pieces
  | some (start, run) =>
    writePieces (pieces.take start) ++ "::" ++ writePieces (pieces.drop (start + run))

end GuestNet.Url.Ipv6
