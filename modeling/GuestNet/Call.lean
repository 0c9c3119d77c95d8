import GuestNet.Backend
import GuestNet.HandleTable

/-! The calls on a driver, and what an open has to pass before a backend is asked. -/
namespace GuestNet

inductive Call where
  | openTarget (target options : String)
  | perform (handle : Handle) (operation : Operation)
  | close (handle : Handle)
  | closeAll
  | isOpen (handle : Handle)
deriving DecidableEq, Repr

/-- Whatever takes calls one at a time. -/
class Host (S : Type) where
  /-- The most bytes that one read or write moves. -/
  maxTransfer : S → Nat
  isOpen : S → Handle → Bool
  openHandles : S → Nat
  call : Call → S → Outcome × S

/-- What does not change while a driver runs. -/
structure Setup (W C : Type) where
  config : Config
  policy : AccessPolicy
  registry : Registry W C

namespace Setup

variable {W C α : Type}

def new (config : Config) (backends : List (Backend W C)) : Setup W C where
  config := config
  policy := .ofEntries config.allowedTargets
  registry := .ofBackends backends

/-- The backend that is asked for a target. The target has to be readable, to have a backend and to
be permitted, and the table needs room, in this order. -/
def backendFor (s : Setup W C) (table : HandleTable α) (raw : String) :
    Except DriverError (Target × Backend W C) :=
  match Target.parse raw with
  | .error e => .error (.badParams e.message)
  | .ok target =>
    match s.registry.find? target.scheme with
    | none => .error (.driverNotFound target.scheme)
    | some backend =>
      match s.policy.check target with
      | .error e => .error e
      | .ok () =>
        if table.isFull then .error (.tooManyHandles table.capacity) else .ok (target, backend)

end Setup
end GuestNet
