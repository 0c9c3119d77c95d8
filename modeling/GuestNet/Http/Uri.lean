import GuestNet.Url.Parse

/-! Addresses as the client writes them. It reads the text of an address anew, by rules of its own,
and an address that it does not read is not asked. -/
namespace GuestNet.Http

/-- What is known of an authority from a part of it. -/
structure AuthorityPart where
  /-- The colons since the last at sign or bracket. -/
  colons : Nat
  opened : Bool
  closed : Bool
  /-- There is a percent sign since the last at sign or bracket. -/
  percent : Bool
  /-- The at sign comes last. -/
  ended : Bool

namespace AuthorityPart

def empty : AuthorityPart := ⟨0, false, false, false, false⟩

/-- The part with one more character. -/
def next? (p : AuthorityPart) (c : Char) : Option AuthorityPart :=
  if c = ':' then
    if p.colons < 8 then some { p with colons := p.colons + 1, ended := false } else none
  else if c = '[' then
    if p.percent || p.opened then none else some { p with opened := true, ended := false }
  else if c = ']' then
    if p.opened && !p.closed then
      some { p with colons := 0, closed := true, percent := false, ended := false }
    else none
  else if c = '@' then some { p with colons := 0, percent := false, ended := true }
  else if c = '%' then some { p with percent := true, ended := false }
  else if c.isAlphanum || "!$&'()*+,-.;=_~".toList.contains c then some { p with ended := false }
  else none

/-- Brackets come in a pair, one colon is left for a port, and nothing is left open. -/
def isWhole (p : AuthorityPart) : Bool :=
  p.opened == p.closed && p.colons ≤ 1 && !p.percent && !p.ended

end AuthorityPart

def isAuthority (s : List Char) : Bool :=
  (s.foldlM AuthorityPart.next? .empty).any AuthorityPart.isWhole

/-- The characters at which an authority ends. -/
def endsAuthority (c : Char) : Bool := c == '/' || c == '?' || c == '#'

def isPathChar (c : Char) : Bool :=
  0x20 < c.toNat && !"#<>?`".toList.contains c

def isQueryChar (c : Char) : Bool :=
  0x20 < c.toNat && !"\"#<>".toList.contains c

/-- What follows an authority. A fragment is passed over. -/
def isPathAndQuery (s : List Char) : Bool :=
  match s.dropWhile isPathChar with
  | [] => true
  | '#' :: _ => true
  | '?' :: query =>
    match query.dropWhile isQueryChar with
    | [] => true
    | c :: _ => c = '#'
  | _ => false

/-- An address that the client can write: of a length that fits sixteen bits, and with an authority
of its own, or nothing but an authority. -/
def isUri (text : String) : Bool :=
  let s := text.toList
  s.length ≤ 65534 &&
    match s.dropWhile Url.isSchemeChar with
    | ':' :: '/' :: '/' :: rest =>
      let authority := rest.takeWhile (!endsAuthority ·)
      (s.takeWhile Url.isSchemeChar).length ≤ 64 && authority ≠ [] && isAuthority authority &&
        isPathAndQuery (rest.dropWhile (!endsAuthority ·))
    | _ => s.all (!endsAuthority ·) && isAuthority s

end GuestNet.Http
