import GuestNet.Bytes
import GuestNet.DriverError

/-! The memory of a guest. A guest names a range by a pointer and a length; every range is checked
against the size of the memory before a byte of it is read or written. -/
namespace GuestNet

structure Memory where
  bytes : Array UInt8
deriving DecidableEq

namespace Memory

/-- Zeros only. -/
def zeros (size : Nat) : Memory := ⟨Array.replicate size 0⟩

def ofBytes (bs : Bytes) : Memory := ⟨bs.toArray⟩

def size (m : Memory) : Nat := m.bytes.size

/-- The start and the end of a range within so many bytes. -/
def range (size : Nat) (ptr len : UInt32) : Except DriverError (Nat × Nat) :=
  if ptr.toNat + len.toNat ≤ size then .ok (ptr.toNat, ptr.toNat + len.toNat)
  else
    .error (.memoryAccess ("out of bounds: ptr=" ++ toString ptr ++ ", len=" ++ toString len ++
      ", memory_size=" ++ toString size))

def slice (m : Memory) (start stop : Nat) : Bytes := (m.bytes.extract start stop).toList

def read (m : Memory) (ptr len : UInt32) : Except DriverError Bytes :=
  (range m.size ptr len).map fun (start, stop) => m.slice start stop

/-- Reads a range as text. -/
def readText (m : Memory) (ptr len : UInt32) : Except DriverError String :=
  match m.read ptr len with
  | .error e => .error e
  | .ok bs =>
    match bs.decode? with
    | some text => .ok text
    | none => .error (.badParams "string is not valid UTF-8")

/-- Puts bytes in the place of as many others. -/
def overwrite (m : Memory) (start : Nat) (bs : Bytes) : Memory :=
  ⟨m.bytes.extract 0 start ++ bs.toArray ++ m.bytes.extract (start + bs.length)⟩

def write (m : Memory) (ptr : UInt32) (bs : Bytes) : Except DriverError Memory :=
  if 0x100000000 ≤ bs.length then
    .error (.memoryAccess ("length " ++ toString bs.length ++ " exceeds u32"))
  else (range m.size ptr (.ofNat bs.length)).map fun (start, _) => m.overwrite start bs

/-- The four bytes of a word, the lowest first. -/
def wordBytes (w : UInt32) : Bytes :=
  [w.toUInt8, (w >>> 8).toUInt8, (w >>> 16).toUInt8, (w >>> 24).toUInt8]

def writeWord (m : Memory) (ptr value : UInt32) : Except DriverError Memory :=
  m.write ptr (wordBytes value)

/-- Appends zeros. -/
def grow (m : Memory) (count : Nat) : Memory := ⟨m.bytes ++ Array.replicate count 0⟩

end Memory
end GuestNet
