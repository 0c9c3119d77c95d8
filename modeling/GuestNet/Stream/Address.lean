import GuestNet.Decimal.Digits
import GuestNet.IoError

/-! Where a stream leads: a host and a port. -/
namespace GuestNet.Stream

structure Address where
  /-- A name, or an internet address as a text. -/
  host : String
  port : Nat
deriving DecidableEq, Repr

namespace Address

/-- The texts before and after the last colon. -/
def splitPort? (s : List Char) : Option (List Char × List Char) :=
  match s.reverse.dropWhile (· ≠ ':') with
  | [] => none
  | _ :: host => some (host.reverse, (s.reverse.takeWhile (· ≠ ':')).reverse)

/-- A decimal number of sixteen bits. A plus sign may stand before it. -/
def readPort? (s : List Char) : Option Nat :=
  let digits :=
    match s with
    | '+' :: rest => rest
    | _ => s
  if digits ≠ [] ∧ digits.all Char.isDigit ∧ Decimal.value digits < 65536 then
    some (Decimal.value digits)
  else none

def parse (text : String) : Except IoError Address :=
  match splitPort? text.toList with
  | none => .error (.described .invalidInput "invalid socket address")
  | some (host, portText) =>
    match readPort? portText with
    | none => .error (.described .invalidInput "invalid port value")
    | some port =>
      if '\x00' ∈ host then
        .error (.described .invalidInput "file name contained an unexpected NUL byte")
      else .ok ⟨String.ofList host, port⟩

end Address
end GuestNet.Stream
