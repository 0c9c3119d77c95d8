import GuestNet.Target
import GuestNet.Url.Parse

/-! Where a target leads: a scheme, a host, and perhaps a port and a path. As a rule, an endpoint
admits those that agree with it in all that it says. -/
namespace GuestNet

structure Endpoint where
  scheme : String
  /-- In lower case. -/
  host : String
  port : Option Nat
  /-- Empty where the address names no path. -/
  path : String
deriving DecidableEq, Repr

inductive EndpointError where
  | notAUrl (text : String) (error : UrlError)
  | otherScheme (text scheme : String)
  | userinfo (raw : String)
  | noHost (text : String)
  | notHostPort (address : String)
  | target (error : TargetError)
deriving DecidableEq, Repr

def EndpointError.message : EndpointError → String
  | notAUrl text error => "invalid target '" ++ text ++ "': " ++ error.message
  | otherScheme text scheme => "target '" ++ text ++ "' does not match scheme '" ++ scheme ++ "'"
  | userinfo raw => "target '" ++ raw ++ "' carries userinfo"
  | noHost text => "target '" ++ text ++ "' has no host"
  | notHostPort address => "stream target '" ++ address ++ "' must be host:port"
  | target error => error.message

namespace Endpoint

/-- The address of a target with its scheme in front. -/
def urlText (t : Target) : String :=
  if (Target.splitScheme? t.address.toList).isSome then t.address
  else t.scheme ++ "://" ++ t.address

/-- A lone slash is no path. -/
def pathText (u : Url) : String :=
  let path := u.path.write
  if path = "/" then "" else path

def lowerCase (s : String) : String := String.ofList (Target.lowerCase s.toList)

/-- The address of a stream has a host and a port and nothing else. -/
def ofUrl (t : Target) (u : Url) : Except EndpointError Endpoint :=
  if u.scheme ≠ t.scheme then .error (.otherScheme (urlText t) t.scheme)
  else if u.hasUserinfo then .error (.userinfo t.raw)
  else
    match u.hostText? with
    | none => .error (.noHost (urlText t))
    | some host =>
      let path := pathText u
      if t.scheme = streamScheme ∧ (path ≠ "" ∨ u.query.isSome ∨ u.fragment.isSome) then
        .error (.notHostPort t.address)
      else .ok ⟨u.scheme, lowerCase host, u.effectivePort?, path⟩

def ofTarget (t : Target) : Except EndpointError Endpoint :=
  match Url.parse (urlText t) with
  | .error e => .error (.notAUrl (urlText t) e)
  | .ok u => ofUrl t u

/-- Reads an entry of an allow-list. -/
def parseRule (text : String) : Except EndpointError Endpoint :=
  match Target.parse text with
  | .error e => .error (.target e)
  | .ok t => ofTarget t

/-- A path continues another one at a slash, or is the same. The empty path has all others
within it. -/
def pathWithin (outer inner : List Char) : Bool :=
  outer = [] || (outer.isPrefixOf inner &&
    (outer.getLast? = some '/' ||
      match inner.drop outer.length with
      | [] => true
      | c :: _ => c = '/'))

def admits (rule e : Endpoint) : Bool :=
  rule.scheme = e.scheme && rule.host = e.host && (rule.port.isNone || rule.port = e.port) &&
    pathWithin rule.path.toList e.path.toList

end Endpoint
end GuestNet
