import GuestNet.Call
import GuestNet.Memory

/-! The calls as a guest makes them: with numbers only, of which pairs name ranges of its memory.
Every range is looked at before the driver is called. Numbers go back through a slot of four bytes. -/
namespace GuestNet

inductive GuestCall where
  | openTarget (target targetLen options optionsLen handleOut : UInt32)
  | read (handle buffer bufferLen countOut : UInt32)
  | write (handle buffer bufferLen countOut : UInt32)
  | close (handle : UInt32)
  | status (handle statusOut : UInt32)
  | header (handle name nameLen buffer bufferLen countOut : UInt32)
deriving DecidableEq, Repr

namespace GuestCall

/-- The slot for a number has to lie within the memory. -/
def checkSlot (m : Memory) (ptr : UInt32) : Except DriverError Unit :=
  (Memory.range m.size ptr 4).map fun _ => ()

def checkBuffer (m : Memory) (ptr len : UInt32) : Except DriverError Unit :=
  (Memory.range m.size ptr len).map fun _ => ()

def checkHandle {S : Type} [Host S] (s : S) (h : Handle) : Except DriverError Unit :=
  if Host.isOpen s h then .ok () else .error (.badHandle h)

/-- What a call asks of a driver. The handle is looked at first, then the slot for the number that
comes back, then what else there is. -/
def request {S : Type} [Host S] (s : S) (m : Memory) : GuestCall → Except DriverError Call
  | openTarget target targetLen options optionsLen handleOut => do
    checkSlot m handleOut
    let target ← m.readText target targetLen
    let options ← m.readText options optionsLen
    return .openTarget target options
  | read handle buffer bufferLen countOut => do
    checkHandle s handle
    checkSlot m countOut
    checkBuffer m buffer bufferLen
    return .perform handle (.read (min bufferLen.toNat (Host.maxTransfer s)))
  | write handle buffer bufferLen countOut => do
    checkHandle s handle
    checkSlot m countOut
    let data ← m.read buffer bufferLen
    return .perform handle (.write (data.take (Host.maxTransfer s)))
  | close handle => return .close handle
  | status handle statusOut => do
    checkHandle s handle
    checkSlot m statusOut
    return .perform handle .status
  | header handle name nameLen buffer bufferLen countOut => do
    checkHandle s handle
    checkSlot m countOut
    checkBuffer m buffer bufferLen
    let name ← m.readText name nameLen
    return .perform handle (.header name)

/-- Puts a number into a slot. -/
def storeWord (m : Memory) (ptr value : UInt32) : Except DriverError Unit × Memory :=
  match m.writeWord ptr value with
  | .error e => (.error e, m)
  | .ok m => (.ok (), m)

/-- Puts bytes into a buffer and then their number into a slot. The bytes stay where the number
cannot be put. -/
def storeBytes (m : Memory) (buffer countOut : UInt32) (data : Bytes) :
    Except DriverError Unit × Memory :=
  match m.write buffer data with
  | .error e => (.error e, m)
  | .ok m => storeWord m countOut (.ofNat data.length)

/-- Puts what a call gave where the guest wants it. Of a header's value the guest gets what fits. -/
def store (m : Memory) : GuestCall → Reply → Except DriverError Unit × Memory
  | openTarget _ _ _ _ handleOut, .handle h => storeWord m handleOut h
  | read _ buffer _ countOut, .bytes data => storeBytes m buffer countOut data
  | write _ _ _ countOut, .number n => storeWord m countOut (.ofNat n)
  | status _ statusOut, .number n => storeWord m statusOut (.ofNat n)
  | header _ _ _ buffer bufferLen countOut, .bytes data =>
    storeBytes m buffer countOut (data.take bufferLen.toNat)
  | _, _ => (.ok (), m)

/-- A handle that the guest cannot be told does not stay open. -/
def abandon {S : Type} [Host S] (s : S) : Reply → S
  | .handle h => (Host.call (.close h) s).2
  | _ => s

/-- Makes a call for a guest, which gets a code. -/
def run {S : Type} [Host S] (c : GuestCall) (m : Memory) (s : S) : ResultCode × Memory × S :=
  match c.request s m with
  | .error e => (e.code, m, s)
  | .ok call =>
    match Host.call call s with
    | (.error e, s) => (e.code, m, s)
    | (.ok reply, s) =>
      match c.store m reply with
      | (.error e, m) => (e.code, m, abandon s reply)
      | (.ok (), m) => (.success, m, s)

end GuestCall

/-- What a guest sees of its call. -/
inductive GuestAnswer where
  | code (code : ResultCode)
  | trap (reason : String)
deriving DecidableEq, Repr

/-- A guest with a memory that it may or may not show. -/
structure Guest where
  memory : Memory
  showsMemory : Bool

namespace Guest

/-- A guest that does not show its memory can only close. -/
def call {S : Type} [Host S] (g : Guest) (c : GuestCall) (s : S) : GuestAnswer × Guest × S :=
  match g.showsMemory, c with
  | false, .close h =>
    match Host.call (.close h) s with
    | (.error e, s) => (.code e.code, g, s)
    | (.ok _, s) => (.code .success, g, s)
  | false, _ => (.trap "guest does not export memory", g, s)
  | true, _ =>
    let (code, memory, s) := c.run g.memory s
    (.code code, { g with memory := memory }, s)

end Guest
end GuestNet
