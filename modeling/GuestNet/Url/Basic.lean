import GuestNet.Url.Ipv4
import GuestNet.Url.Ipv6

/-! Addresses of resources: what they are made of, how they are written, and why a text is none. -/
namespace GuestNet

inductive UrlError where
  | relativeWithoutBase
  | relativeToFlatBase
  | emptyHost
  | invalidPort
  | invalidIpv4
  | invalidIpv6
  | invalidDomainCharacter
  | invalidDomainName
deriving DecidableEq, Repr

def UrlError.message : UrlError → String
  | relativeWithoutBase => "relative URL without a base"
  | relativeToFlatBase => "relative URL with a cannot-be-a-base base"
  | emptyHost => "empty host"
  | invalidPort => "invalid port number"
  | invalidIpv4 => "invalid IPv4 address"
  | invalidIpv6 => "invalid IPv6 address"
  | invalidDomainCharacter => "invalid domain character"
  | invalidDomainName => "invalid international domain name"

namespace Url

inductive Host where
  | domain (name : String)
  | ipv4 (address : Nat)
  | ipv6 (pieces : List Nat)
deriving DecidableEq, Repr

def Host.write : Host → String
  | domain name => name
  | ipv4 address => Ipv4.write address
  | ipv6 pieces => "[" ++ Ipv6.write pieces ++ "]"

/-- Segments each stand after a slash; a flat path is one text without structure. -/
inductive Path where
  | flat (text : String)
  | segments (parts : List String)
deriving DecidableEq, Repr

def Path.write : Path → String
  | flat text => text
  | segments parts => String.join (parts.map ("/" ++ ·))

/-- How the parts of an address are read depends on its scheme. -/
inductive Kind where
  | file
  | special
  | other
deriving DecidableEq, Repr

def Kind.ofScheme (scheme : String) : Kind :=
  if scheme = "file" then .file
  else if scheme ∈ ["http", "https", "ws", "wss", "ftp"] then .special
  else .other

/-- A backslash counts as a slash, and the host is a domain name or an internet address. -/
def Kind.isSpecial : Kind → Bool
  | other => false
  | _ => true

def defaultPort? (scheme : String) : Option Nat :=
  if scheme = "http" ∨ scheme = "ws" then some 80
  else if scheme = "https" ∨ scheme = "wss" then some 443
  else if scheme = "ftp" then some 21
  else none

end Url

structure Url where
  scheme : String
  username : String
  password : Option String
  /-- Present with an empty name where the text has an authority without a host. -/
  host : Option Url.Host
  /-- Absent where it is the default of the scheme. -/
  port : Option Nat
  path : Url.Path
  query : Option String
  fragment : Option String
deriving DecidableEq, Repr

namespace Url

def hostText? (u : Url) : Option String := (u.host.map Host.write).filter (· ≠ "")

def effectivePort? (u : Url) : Option Nat := u.port <|> defaultPort? u.scheme

def hasUserinfo (u : Url) : Bool := u.username ≠ "" || u.password.isSome

def writeUserinfo (u : Url) : String :=
  if u.hasUserinfo then u.username ++ u.password.elim "" (":" ++ ·) ++ "@" else ""

def writePort (u : Url) : String := u.port.elim "" fun p => ":" ++ toString p

/-- A path that starts with two slashes is kept apart from an authority. -/
def writeAuthority (u : Url) : String :=
  match u.host with
  | some host => "//" ++ u.writeUserinfo ++ host.write ++ u.writePort
  | none =>
    match u.path with
    | .segments ("" :: _ :: _) => "/."
    | _ => ""

def writeQuery (u : Url) : String := u.query.elim "" ("?" ++ ·)

def write (u : Url) : String :=
  u.scheme ++ ":" ++ u.writeAuthority ++ u.path.write ++ u.writeQuery ++
    u.fragment.elim "" ("#" ++ ·)

def withoutUserinfo (u : Url) : Url := { u with username := "", password := none }

def withoutFragment (u : Url) : Url := { u with fragment := none }

end Url
end GuestNet
