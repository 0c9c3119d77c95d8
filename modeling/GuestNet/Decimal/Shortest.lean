import GuestNet.Decimal.Digits
import GuestNet.Decimal.Binary64

/-! The shortest decimal that reads back as a given magnitude, and its notation. -/
namespace GuestNet.Decimal

/-- The number `digits · 10 ^ exponent`. -/
structure Scientific where
  digits : Nat
  exponent : Int
deriving DecidableEq, Repr

namespace Magnitude

/-- The distance to the lower end of the interval that rounds to the value, in quarters of its
last bit. The end is nearer where the value is the least with its exponent. -/
def lowerQuarters (x : Magnitude) : Nat :=
  if x.significand = 0x10000000000000 ∧ x.exponent > -1074 then 1 else 2

/-- Whether `num / den` rounds to the value; the ends do if the significand is even. -/
def covers (x : Magnitude) (num den : Nat) : Bool :=
  let (lowNum, lowDen) := scaled (4 * x.significand - x.lowerQuarters) 4 x.exponent
  let (highNum, highDen) := scaled (4 * x.significand + 2) 4 x.exponent
  if x.significand % 2 = 0 then
    lowNum * den ≤ num * lowDen && num * highDen ≤ highNum * den
  else
    lowNum * den < num * lowDen && num * highDen < highNum * den

/-- A fraction that is multiplied by `10 ^ shift`. -/
def decimallyScaled (num den : Nat) (shift : Int) : Nat × Nat :=
  if shift ≥ 0 then (num * Nat.pow 10 shift.toNat, den) else (num, den * Nat.pow 10 (-shift).toNat)

/-- Of the two neighbours of the value among the multiples of `10 ^ exponent`, those that read
back as the value, the nearer one first, of two as near the even one. -/
def onGrid? (x : Magnitude) (exponent : Int) : Option Scientific :=
  let (num, den) := x.fraction
  let (n, d) := decimallyScaled num den (-exponent)
  let low := n / d
  let readsBack (k : Nat) : Bool :=
    let (a, b) := decimallyScaled k 1 exponent
    x.covers a b
  let near := roundQuotient n d
  let far := if near = low then low + 1 else low
  if readsBack near then some ⟨near, exponent⟩
  else if readsBack far then some ⟨far, exponent⟩
  else none

/-- The exponent of the leading decimal digit of a positive value. -/
def decimalExponent (x : Magnitude) : Int :=
  let (num, den) := x.fraction
  let guess : Int := (digits num).length - (digits den).length
  let (n, d) := decimallyScaled num den (-guess)
  if n < d then guess - 1 else guess

/-- Fewest digits first, from one to seventeen. -/
def shortest (x : Magnitude) : Scientific :=
  let leading := x.decimalExponent
  ((List.range 17).findSome? fun k => x.onGrid? (leading - (k : Nat))).getD ⟨x.significand, 0⟩

end Magnitude

/-- How a decimal is written: positionally where the exponent of its leading digit lies between
two bounds, with a mark, a sign and the exponent elsewhere. A whole number keeps one place. -/
structure NumberStyle where
  leastPositional : Int
  greatestPositional : Int
  exponentMark : String
  positiveSign : String

namespace NumberStyle

def positional (ds : List Char) (leading : Int) : String :=
  if leading < 0 then
    "0." ++ String.ofList (List.replicate (-leading - 1).toNat '0' ++ ds)
  else
    let whole := leading.toNat + 1
    let padded := ds ++ List.replicate (whole - ds.length) '0'
    let places := padded.drop whole
    String.ofList (padded.take whole) ++ "." ++
      (if places = [] then "0" else String.ofList places)

def scientific (style : NumberStyle) (ds : List Char) (leading : Int) : String :=
  let places := ds.drop 1
  let sign := if leading < 0 then "-" else style.positiveSign
  String.ofList (ds.take 1) ++ (if places = [] then "" else "." ++ String.ofList places) ++
    style.exponentMark ++ sign ++ toString leading.natAbs

/-- Zeros at the end of the digits go into the exponent. -/
def write (style : NumberStyle) (negative : Bool) (x : Magnitude) : String :=
  let sign := if negative then "-" else ""
  if x.isZero then sign ++ "0.0"
  else
    let s := x.shortest
    let all := digits s.digits
    let leading := s.exponent + all.length - 1
    let ds := (all.reverse.dropWhile (· == '0')).reverse
    sign ++ if style.leastPositional ≤ leading ∧ leading ≤ style.greatestPositional
      then positional ds leading else style.scientific ds leading

end NumberStyle
end GuestNet.Decimal
