/-! Magnitudes of binary floating point with 53 significant bits, in exact arithmetic: rounding of
a quotient to the nearest magnitude, products and quotients. -/
namespace GuestNet.Decimal

/-- The value `significand · 2 ^ exponent`. The significand has 53 bits, or fewer where the
exponent is the least one, `-1074`. -/
structure Magnitude where
  significand : Nat
  exponent : Int
deriving DecidableEq, Repr

namespace Magnitude

def zero : Magnitude := ⟨0, -1074⟩

def isZero (x : Magnitude) : Bool := x.significand == 0

/-- The nearest natural number, a half going to the even neighbour. -/
def roundQuotient (num den : Nat) : Nat :=
  let q := num / den
  let r := 2 * (num % den)
  if r < den then q else if den < r then q + 1 else q + q % 2

/-- A fraction that is multiplied by `2 ^ shift`. -/
def scaled (num den : Nat) (shift : Int) : Nat × Nat :=
  if shift ≥ 0 then (num <<< shift.toNat, den) else (num, den <<< (-shift).toNat)

/-- The exponent at which a positive quotient keeps 53 bits. -/
def quotientExponent (num den : Nat) : Int :=
  let least : Int := num.log2 - den.log2 - 53
  let (n, d) := scaled num den (-least)
  max (if n / d < 0x20000000000000 then least else least + 1) (-1074)

/-- The magnitude nearest to a quotient, unless it lies past the greatest one. -/
def nearest? (num den : Nat) : Option Magnitude :=
  if num = 0 then some zero
  else
    let exponent := quotientExponent num den
    let (n, d) := scaled num den (-exponent)
    let significand := roundQuotient n d
    let x : Magnitude :=
      if significand = 0x20000000000000 then ⟨0x10000000000000, exponent + 1⟩ else ⟨significand, exponent⟩
    if x.exponent > 971 then none else some x

/-- The value as a fraction. -/
def fraction (x : Magnitude) : Nat × Nat := scaled x.significand 1 x.exponent

def mul? (x y : Magnitude) : Option Magnitude :=
  let (a, b) := x.fraction
  let (c, d) := y.fraction
  nearest? (a * c) (b * d)

/-- The divisor is not zero. -/
def div? (x y : Magnitude) : Option Magnitude :=
  let (a, b) := x.fraction
  let (c, d) := y.fraction
  nearest? (a * d) (b * c)

/-- The magnitude nearest to a power of ten that is not past the greatest one. -/
def powerOfTen (k : Nat) : Magnitude := (nearest? (Nat.pow 10 k) 1).getD zero

/-- `significand · 10 ^ exponent` by one multiplication or division with a rounded power of ten,
after as many divisions by `10 ^ 308` as a smaller exponent takes. Nothing stands for a value past
the greatest magnitude. -/
def ofDecimal? (significand : Nat) (exponent : Int) : Option Magnitude :=
  go ((nearest? significand 1).getD zero) exponent
where
  go (x : Magnitude) (exponent : Int) : Option Magnitude :=
    if exponent.natAbs ≤ 308 then
      if exponent ≥ 0 then x.mul? (powerOfTen exponent.natAbs)
      else x.div? (powerOfTen exponent.natAbs)
    else if x.isZero then some x
    else if exponent ≥ 0 then none
    else go ((x.div? (powerOfTen 308)).getD zero) (exponent + 308)
  termination_by exponent.natAbs

end Magnitude
end GuestNet.Decimal
