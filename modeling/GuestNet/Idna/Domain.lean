import GuestNet.Text.Composition
import GuestNet.Idna.Label
import GuestNet.Idna.Punycode

/-! Domain names in ASCII: each character is mapped, the text normalised, and every label with
characters beyond ASCII is checked and written in letters, digits and hyphens. -/
namespace GuestNet.Idna

/-- Controls, delimiters of addresses and the percent sign have no place in a domain name. -/
def isForbidden (c : Char) : Bool :=
  c.toNat ≤ 0x20 || c.toNat == 0x7F || c ∈ "#/:<>?@[\\]^|%".toList

def isAscii (s : List Char) : Bool := s.all (·.toNat < 0x80)

/-- The start of a label that stands for one with characters beyond ASCII. -/
def acePrefix : List Char := ['x', 'n', '-', '-']

/-- The characters of a label. One that claims to stand for others has to, and in normal form. -/
def unicodeLabel? (label : List Char) : Option (List Char) :=
  if acePrefix.isPrefixOf label then
    match Punycode.decode (label.drop 4) with
    | none => none
    | some decoded =>
      if isAscii label && !isAscii decoded && Text.normalForm decoded == decoded &&
          !acePrefix.isPrefixOf decoded && isLabel decoded then some decoded
      else none
  else if isAscii label || isLabel label then some label
  else none

def asciiLabel (label : List Char) : List Char :=
  if isAscii label then label else acePrefix ++ Punycode.encode label

def toAscii? (domain : List Char) : Option (List Char) :=
  match domain.mapM map? with
  | none => none
  | some mapped =>
    let labels := (Text.normalForm mapped.flatten).splitOn '.'
    match labels.mapM unicodeLabel? with
    | none => none
    | some labels =>
      if labels.any (·.any isForbidden) then none
      else if labels.any isRightToLeft && !labels.all isDirected then none
      else some (['.'].intercalate (labels.map asciiLabel))

end GuestNet.Idna
