import GuestNet.Text.Blank

/-! The words of a message head: which texts may stand there as methods, names and values. -/
namespace GuestNet.Http

def isTokenChar (c : Char) : Bool := c.isAlphanum || "!#$%&'*+-.^_`|~".toList.contains c

/-- Methods and names of headers are tokens. -/
def isToken (s : List Char) : Bool := s ≠ [] && s.all isTokenChar

/-- A name has a length that fits sixteen bits. -/
def isHeaderName (s : List Char) : Bool := isToken s && s.length < 65536

/-- No control but the tab stands in a value. -/
def isHeaderValue (s : List Char) : Bool :=
  s.all fun c => c == '\t' || (0x20 ≤ c.toNat && c.toNat ≠ 0x7f)

def lowerCase (s : String) : String := String.ofList (s.toList.map Char.toLower)

/-- A method in upper case, without white space at its ends. -/
def readMethod? (s : String) : Option String :=
  let method := (Text.trim s.toList).map Char.toUpper
  if isToken method then some (String.ofList method) else none

end GuestNet.Http
