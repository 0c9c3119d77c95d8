import GuestNet.Text.Blank
import GuestNet.DriverError

/-! What a guest asks to open: a scheme that selects a backend and an address that only the backend
understands. A target is written `scheme://…`, as a path `/scheme/…`, or as a bare stream address. -/
namespace GuestNet

/-- The scheme of raw byte streams, which a text without any scheme means. -/
def streamScheme : String := "tcp"

structure Target where
  /-- In lower case. -/
  scheme : String
  address : String
  /-- The text as given, without white space at its ends. -/
  raw : String
deriving DecidableEq, Repr

inductive TargetError where
  | empty
  | noScheme (raw : String)
  | noAddress (raw : String)
deriving DecidableEq, Repr

def TargetError.message : TargetError → String
  | empty => "empty target"
  | noScheme raw => "target '" ++ raw ++ "' has no scheme"
  | noAddress raw => "target '" ++ raw ++ "' has no address"

namespace Target

/-- The texts before and after the first `://`. -/
def splitScheme? : List Char → Option (List Char × List Char)
  | ':' :: '/' :: '/' :: rest => some ([], rest)
  | [] => none
  | c :: rest => (splitScheme? rest).map fun (left, right) => (c :: left, right)

/-- The non-empty pieces between slashes. -/
def pieces (s : List Char) : List (List Char) := (s.splitOn '/').filter (· ≠ [])

def lowerCase (s : List Char) : List Char := s.map Char.toLower

/-- A stream's address leaves its scheme out and every other keeps it. -/
def ofUrlText (raw : String) (text scheme rest : List Char) : Except TargetError Target :=
  let scheme := lowerCase scheme
  if rest = [] then .error (.noAddress raw)
  else if scheme = [] then .error (.noScheme raw)
  else .ok {
    scheme := String.ofList scheme
    address := String.ofList (if String.ofList scheme = streamScheme then rest else text)
    raw := String.ofList text }

def ofPathText (raw : String) (text : List Char) : Except TargetError Target :=
  match pieces text with
  | [] => .error (.noScheme raw)
  | [_] => .error (.noAddress raw)
  | scheme :: address => .ok {
      scheme := String.ofList (lowerCase scheme)
      address := String.ofList (['/'].intercalate address)
      raw := String.ofList text }

def ofStreamText (text : List Char) : Target where
  scheme := streamScheme
  address := String.ofList text
  raw := String.ofList text

def parse (raw : String) : Except TargetError Target :=
  let text := Text.trim raw.toList
  match splitScheme? text with
  | some (scheme, rest) => ofUrlText raw text scheme rest
  | none =>
    match text with
    | [] => .error .empty
    | '/' :: _ => ofPathText raw text
    | _ => .ok (ofStreamText text)

end Target
end GuestNet
