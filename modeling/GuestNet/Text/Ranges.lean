/-! Sets of code points as sorted ranges, written in hexadecimal: `41-5A` is a range, `5F` a single
code point, and blanks stand between them. -/
namespace GuestNet.Text

structure Ranges where
  /-- First and last code points, in ascending order. -/
  bounds : Array (Nat × Nat)

namespace Ranges

def hexDigit (c : Char) : Nat :=
  if c.isDigit then c.toNat - '0'.toNat else c.toNat - 'A'.toNat + 10

def number (s : List Char) : Nat := s.foldl (fun n c => 16 * n + hexDigit c) 0

def bound (s : List Char) : Nat × Nat :=
  match s.splitOn '-' with
  | [first, last] => (number first, number last)
  | _ => (number s, number s)

/-- The words of a text between blanks and ends of lines. -/
def words (s : String) : List (List Char) :=
  (s.toList.map fun c => if c = '\n' then ' ' else c).splitOn ' ' |>.filter (· ≠ [])

def ofText (s : String) : Ranges := ⟨((words s).map bound).toArray⟩

/-- The index of the last range that starts at or before a code point lies in `[low, high)`. -/
def search (bounds : Array (Nat × Nat)) (n low high : Nat) : Bool :=
  if low < high then
    let middle := low + (high - low) / 2
    match bounds[middle]? with
    | none => false
    | some (first, last) =>
      if n < first then search bounds n low middle
      else if n ≤ last then true
      else search bounds n (middle + 1) high
  else false
termination_by high - low

def contains (r : Ranges) (c : Char) : Bool := search r.bounds c.toNat 0 r.bounds.size

end Ranges
end GuestNet.Text
