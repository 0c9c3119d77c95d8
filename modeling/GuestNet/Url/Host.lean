import GuestNet.Idna.Domain
import GuestNet.Url.Basic

/-! Hosts of addresses. With a special scheme a host is a domain name or an internet address,
otherwise any text without delimiters. -/
namespace GuestNet.Url

/-- Characters that no host has. -/
def isForbiddenHostChar (c : Char) : Bool :=
  c ∈ ['\x00', '\t', '\n', '\r', ' ', '#', '/', ':', '<', '>', '?', '@', '[', '\\', ']', '^', '|']

/-- An address of eight pieces, from after its opening bracket. -/
def bracketedHost (s : List Char) : Except UrlError Host :=
  match s.getLast? with
  | some ']' =>
    match Ipv6.parse? s.dropLast with
    | some pieces => .ok (.ipv6 pieces)
    | none => .error .invalidIpv6
  | _ => .error .invalidIpv6

def plainHost (s : List Char) : Except UrlError Host :=
  match s with
  | '[' :: rest => bracketedHost rest
  | _ =>
    if s.any isForbiddenHostChar then .error .invalidDomainCharacter
    else .ok (.domain (String.ofList (percentEncode controlSet s)))

def domainHost (s : List Char) : Except UrlError Host :=
  match s with
  | '[' :: rest => bracketedHost rest
  | _ =>
    match String.fromUTF8? ⟨(percentDecode s).toArray⟩ with
    | none => .error .invalidDomainName
    | some decoded =>
      match Idna.toAscii? decoded.toList with
      | none => .error .invalidDomainName
      | some [] => .error .emptyHost
      | some name =>
        if Ipv4.endsInNumber name then
          match Ipv4.parse? name with
          | some address => .ok (.ipv4 address)
          | none => .error .invalidIpv4
        else .ok (.domain (String.ofList name))

/-- The text of a host up to a colon outside brackets, and what follows it. -/
def splitHost (inBrackets : Bool) : List Char → List Char × List Char
  | [] => ([], [])
  | c :: rest =>
    if c = ':' ∧ ¬ inBrackets then ([], c :: rest)
    else
      let (host, after) := splitHost (if c = '[' then true else if c = ']' then false else inBrackets) rest
      (c :: host, after)

end GuestNet.Url
