import GuestNet.Call

/-! A driver that answers one call after the other. Every live handle has a connection; a
connection that is let go of is kept in `released`, the last one first. -/
namespace GuestNet

structure Driver (W C : Type) where
  setup : Setup W C
  table : HandleTable (Slot C)
  released : List C
  world : W

namespace Driver

variable {W C : Type} [Connection C]

def new (config : Config) (backends : List (Backend W C)) (world : W) : Driver W C where
  setup := .new config backends
  table := .new config.maxHandles
  released := []
  world := world

def isOpen (d : Driver W C) (h : Handle) : Bool := d.table.contains h

def openHandles (d : Driver W C) : Nat := d.table.size

/-- Issues a handle for a connection. -/
def bind (d : Driver W C) (c : C) : Except DriverError Handle × Driver W C :=
  match d.table.allocate (.ofConnection c) with
  | .error e => (.error e, { d with released := c :: d.released })
  | .ok (h, table) => (.ok h, { d with table := table })

def openTarget (d : Driver W C) (target options : String) :
    Except DriverError Handle × Driver W C :=
  match d.setup.backendFor d.table target with
  | .error e => (.error e, d)
  | .ok (target, backend) =>
    match backend.connect target options d.setup.config d.world with
    | (.error e, world) => (.error e, { d with world := world })
    | (.ok c, world) => bind { d with world := world } c

def perform (d : Driver W C) (h : Handle) (op : Operation) : Outcome × Driver W C :=
  match d.table.lookup h with
  | .error e => (.error e, d)
  | .ok slot =>
    let (outcome, slot) := slot.perform d.setup.config.maxTransfer op
    (outcome, { d with table := d.table.put h slot })

/-- The handle is gone also where the connection fails to close. -/
def close (d : Driver W C) (h : Handle) : Except DriverError Unit × Driver W C :=
  match d.table.release h with
  | .error e => (.error e, d)
  | .ok (slot, table) =>
    let (_, c) := Connection.close slot.connection
    (.ok (), { d with table := table, released := c :: d.released })

/-- Closes every connection, in the order of the handles. -/
def closeAll (d : Driver W C) : Driver W C :=
  let (entries, table) := d.table.drain
  let closed := entries.map fun (_, slot) => (Connection.close slot.connection).2
  { d with table := table, released := closed.reverse ++ d.released }

def call : Call → Driver W C → Outcome × Driver W C
  | .openTarget target options, d =>
    let (r, d) := d.openTarget target options
    (r.map .handle, d)
  | .perform h op, d => d.perform h op
  | .close h, d =>
    let (r, d) := d.close h
    (r.map fun () => .nothing, d)
  | .closeAll, d => (.ok .nothing, d.closeAll)
  | .isOpen h, d => (.ok (.flag (d.isOpen h)), d)

/-- Answers calls in their order. -/
def run : List Call → Driver W C → List Outcome × Driver W C
  | [], d => ([], d)
  | c :: rest, d =>
    let (outcome, d) := call c d
    let (outcomes, d) := run rest d
    (outcome :: outcomes, d)

instance : Host (Driver W C) where
  maxTransfer d := d.setup.config.maxTransfer
  isOpen := isOpen
  openHandles := openHandles
  call := call

end Driver
end GuestNet
