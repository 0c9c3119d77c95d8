import GuestNet.Bytes
import GuestNet.DriverError
import GuestNet.Handle

/-! What stands behind a handle, and what a call can ask of it. -/
namespace GuestNet

inductive ConnectionKind where
  | stream
  | http
  | custom
deriving DecidableEq, Repr

/-- What a type of connections can do. Every action gives its outcome and the connection
afterwards. -/
class Connection (C : Type) where
  kind : C → ConnectionKind
  /-- Gives so many bytes or fewer, and none when no more will come. -/
  read : Nat → C → Except DriverError Bytes × C
  /-- Takes bytes from the first on and tells how many. -/
  write : Bytes → C → Except DriverError Nat × C
  close : C → Except DriverError Unit × C
  /-- Only an answer to a request has one. -/
  status : C → Except DriverError Nat := fun _ => .error (.unsupported "status")
  header : String → C → Except DriverError Bytes := fun _ _ => .error (.unsupported "header")

/-- Connections of either of two types. -/
instance {A B : Type} [Connection A] [Connection B] : Connection (A ⊕ B) where
  kind := Sum.elim Connection.kind Connection.kind
  read len := Sum.elim (fun a => (Connection.read len a).map id .inl)
    fun b => (Connection.read len b).map id .inr
  write data := Sum.elim (fun a => (Connection.write data a).map id .inl)
    fun b => (Connection.write data b).map id .inr
  close := Sum.elim (fun a => (Connection.close a).map id .inl)
    fun b => (Connection.close b).map id .inr
  status := Sum.elim Connection.status Connection.status
  header name := Sum.elim (Connection.header name) (Connection.header name)

/-- What can be asked under a handle. -/
inductive Operation where
  | read (len : Nat)
  | write (data : Bytes)
  | status
  | header (name : String)
  | kind
deriving DecidableEq, Repr

/-- What a call gives that succeeds. -/
inductive Reply where
  | nothing
  | handle (handle : Handle)
  | bytes (data : Bytes)
  | number (value : Nat)
  | kind (kind : ConnectionKind)
  | flag (value : Bool)
deriving DecidableEq, Repr

abbrev Outcome := Except DriverError Reply

/-- A connection with the kind that it had when it was bound to a handle. -/
structure Slot (C : Type) where
  kind : ConnectionKind
  connection : C

namespace Slot

variable {C : Type} [Connection C]

def ofConnection (c : C) : Slot C := ⟨Connection.kind c, c⟩

/-- Does what is asked. A read or a write moves at most `limit` bytes. -/
def perform (limit : Nat) (s : Slot C) : Operation → Outcome × Slot C
  | .read len =>
    let (r, c) := Connection.read (min len limit) s.connection
    (r.map .bytes, { s with connection := c })
  | .write data =>
    let (r, c) := Connection.write (data.take limit) s.connection
    (r.map .number, { s with connection := c })
  | .status => ((Connection.status s.connection).map .number, s)
  | .header name => ((Connection.header name s.connection).map .bytes, s)
  | .kind => (.ok (.kind s.kind), s)

end Slot
end GuestNet
