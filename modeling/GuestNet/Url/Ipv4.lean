import GuestNet.Url.Percent

/-! Internet addresses of four bytes, written with one to four decimal, octal or hexadecimal
numbers of which the last one fills what is left. -/
namespace GuestNet.Url.Ipv4

def digitValue? (radix : Nat) (c : Char) : Option Nat :=
  (hexDigitValue? c).filter (· < radix)

def value? (radix : Nat) (digits : List Char) : Option Nat :=
  (digits.mapM (digitValue? radix)).map (·.foldl (fun n d => n * radix + d) 0)

/-- A number in one of the three radices; a lone marker of a radix is zero. -/
def number? : List Char → Option Nat
  | [] => none
  | '0' :: 'x' :: digits => value? 16 digits
  | '0' :: 'X' :: digits => value? 16 digits
  | '0' :: d :: digits => value? 8 (d :: digits)
  | digits => value? 10 digits

/-- The labels of a host; a point at the end adds none. -/
def labels (host : List Char) : List (List Char) :=
  let all := host.splitOn '.'
  if 1 < all.length ∧ all.getLast? = some [] then all.dropLast else all

/-- The last label is a number, or has digits only. Such a host has to be an address. -/
def endsInNumber (host : List Char) : Bool :=
  match (labels host).getLast? with
  | none => false
  | some label => (label ≠ [] && label.all Char.isDigit) || (number? label).isSome

/-- The address, from its numbers: all but the last are bytes. -/
def address? (numbers : List Nat) : Option Nat :=
  match numbers.reverse with
  | [] => none
  | last :: firsts =>
    if 4 ≤ firsts.length ∨ 1 <<< (8 * (4 - firsts.length)) ≤ last ∨ firsts.any (255 < ·) then none
    else
      some (firsts.reverse.zipIdx.foldl (fun sum (n, i) => sum + n <<< (8 * (3 - i))) last)

def parse? (host : List Char) : Option Nat := ((labels host).mapM number?).bind address?

/-- Four decimal numbers. -/
def write (address : Nat) : String :=
  let part (i : Nat) : String := toString ((address >>> (8 * i)) % 256)
  part 3 ++ "." ++ part 2 ++ "." ++ part 1 ++ "." ++ part 0

end GuestNet.Url.Ipv4
