import GuestNet.Endpoint

/-! The allow-list of a host: which targets a guest may open. -/
namespace GuestNet

structure AccessPolicy where
  rules : List Endpoint
  /-- Some entry was there, even if no entry is a rule. -/
  restricted : Bool
deriving DecidableEq, Repr

namespace AccessPolicy

def allowAll : AccessPolicy := ⟨[], false⟩

/-- The entries that are not blank, without white space at their ends. -/
def entries (list : List String) : List String :=
  (list.map fun e => String.ofList (Text.trim e.toList)).filter (· ≠ "")

/-- Entries that are no rules are left out, and still restrict. -/
def ofEntries (list : List String) : AccessPolicy where
  rules := (entries list).filterMap fun e => (Endpoint.parseRule e).toOption
  restricted := entries list ≠ []

def isUnrestricted (p : AccessPolicy) : Bool := !p.restricted

def isPermitted (p : AccessPolicy) (t : Target) : Bool :=
  p.isUnrestricted ||
    match Endpoint.ofTarget t with
    | .error _ => false
    | .ok e => p.rules.any (·.admits e)

def check (p : AccessPolicy) (t : Target) : Except DriverError Unit :=
  if p.isPermitted t then .ok () else .error (.permissionDenied t.raw)

end AccessPolicy
end GuestNet
