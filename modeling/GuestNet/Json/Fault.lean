import GuestNet.Decimal.Shortest
import GuestNet.Text.Quoted

/-! Why and where a JSON text does not decode. Readers say how many bytes they left unread; from
that and the whole text comes the place, as a line and a column. -/
namespace GuestNet.Json

/-- What stands in a text where something else was expected. -/
inductive Found where
  | null
  | flag (value : Bool)
  | natural (value : Nat)
  /-- The integer `-value`. -/
  | negative (value : Nat)
  | floating (isNegative : Bool) (value : Decimal.Magnitude)
  | text (value : String)
  | list
  | object
deriving DecidableEq, Repr

/-- Floating point is positional from `0.00001` up to sixteen whole digits, and its exponent
always has a sign. -/
def floatingStyle : Decimal.NumberStyle where
  leastPositional := -5
  greatestPositional := 15
  exponentMark := "e"
  positiveSign := "+"

def Found.phrase : Found → String
  | null => "null"
  | flag value => "boolean `" ++ (if value then "true" else "false") ++ "`"
  | natural value => "integer `" ++ toString value ++ "`"
  | negative value => "integer `-" ++ toString value ++ "`"
  | floating isNegative value =>
    "floating point `" ++ floatingStyle.write isNegative value ++ "`"
  | text value => "string " ++ Text.quoted value
  | list => "sequence"
  | object => "map"

inductive Reason where
  | endInList
  | endInObject
  | endInText
  | endInValue
  | expectedColon
  | expectedCommaOrEndOfList
  | expectedCommaOrEndOfObject
  | expectedWord
  | expectedValue
  | invalidEscape
  | invalidNumber
  | numberOutOfRange
  | loneSurrogate
  | endOfHexEscape
  | controlCharacter
  | keyNotText
  | trailingComma
  | trailingCharacters
  | invalidType (found : Found) (expected : String)
  | invalidValue (found : Found) (expected : String)
  | invalidLength (length : Nat) (expected : String)
  | missingField (name : String)
  | duplicateField (name : String)
deriving DecidableEq, Repr

def Reason.message : Reason → String
  | endInList => "EOF while parsing a list"
  | endInObject => "EOF while parsing an object"
  | endInText => "EOF while parsing a string"
  | endInValue => "EOF while parsing a value"
  | expectedColon => "expected `:`"
  | expectedCommaOrEndOfList => "expected `,` or `]`"
  | expectedCommaOrEndOfObject => "expected `,` or `\x7d`"
  | expectedWord => "expected ident"
  | expectedValue => "expected value"
  | invalidEscape => "invalid escape"
  | invalidNumber => "invalid number"
  | numberOutOfRange => "number out of range"
  | loneSurrogate => "lone leading surrogate in hex escape"
  | endOfHexEscape => "unexpected end of hex escape"
  | controlCharacter => "control character (\\u0000-\\u001F) found while parsing a string"
  | keyNotText => "key must be a string"
  | trailingComma => "trailing comma"
  | trailingCharacters => "trailing characters"
  | invalidType found expected => "invalid type: " ++ found.phrase ++ ", expected " ++ expected
  | invalidValue found expected => "invalid value: " ++ found.phrase ++ ", expected " ++ expected
  | invalidLength length expected =>
    "invalid length " ++ toString length ++ ", expected " ++ expected
  | missingField name => "missing field `" ++ name ++ "`"
  | duplicateField name => "duplicate field `" ++ name ++ "`"

/-- The number of bytes that encode a text. -/
def byteCount (s : List Char) : Nat := s.foldr (fun c n => c.utf8Size + n) 0

/-- A reader's failure, with the number of bytes that follow its place. -/
structure Fault where
  reason : Reason
  unread : Nat
deriving DecidableEq, Repr

namespace Fault

/-- The place is right before the rest of the text. -/
def before (reason : Reason) (rest : List Char) : Fault := ⟨reason, byteCount rest⟩

/-- The place is after the first byte of the rest, or at the end of the text. -/
def onto (reason : Reason) (rest : List Char) : Fault := ⟨reason, byteCount rest - 1⟩

end Fault

/-- A failure at a line, counted from one, and a column: the bytes read on that line. -/
structure Error where
  reason : Reason
  line : Nat
  column : Nat
deriving DecidableEq, Repr

def Error.message (e : Error) : String :=
  e.reason.message ++ " at line " ++ toString e.line ++ " column " ++ toString e.column

/-- The line and the column after so many bytes of a text. A character that is only partly read
counts with the bytes read of it. -/
def place : Nat → List Char → Nat × Nat
  | n, s => go n s (1, 0)
where
  go : Nat → List Char → Nat × Nat → Nat × Nat
    | _, [], at_ => at_
    | n, c :: s, (line, column) =>
      if n < c.utf8Size then (line, column + n)
      else go (n - c.utf8Size) s (if c = '\n' then (line + 1, 0) else (line, column + c.utf8Size))

def Fault.inText (f : Fault) (text : List Char) : Error :=
  let (line, column) := place (byteCount text - f.unread) text
  ⟨f.reason, line, column⟩

end GuestNet.Json
