import Std.Data.TreeMap
import GuestNet.DriverError
import GuestNet.Handle

/-! What handles are bound to. A handle is issued by a counter that goes around and passes over
those that are live, so it comes again only when all others had their turn. -/
namespace GuestNet

structure HandleTable (α : Type) where
  entries : Std.TreeMap Handle α
  /-- Where the search for the next handle starts. -/
  next : Handle
  capacity : Nat

namespace HandleTable

variable {α : Type}

/-- No table holds more than there are handles. -/
def new (capacity : Nat) : HandleTable α := ⟨∅, .first, min capacity Handle.greatest.toNat⟩

def size (t : HandleTable α) : Nat := t.entries.size

def isEmpty (t : HandleTable α) : Bool := t.entries.isEmpty

def contains (t : HandleTable α) (h : Handle) : Bool := t.entries.contains h

def get? (t : HandleTable α) (h : Handle) : Option α := t.entries[h]?

def isFull (t : HandleTable α) : Bool := t.capacity ≤ t.size

/-- The first handle that is not live, from a start on. The search passes over `passes` handles at
most. -/
def search (live : Handle → Bool) : Nat → Handle → Handle
  | 0, h => h
  | passes + 1, h => if live h then search live passes h.following else h

/-- The handle that is issued next. Not more handles than there are live ones can be in the way. -/
def free (t : HandleTable α) : Handle := search t.contains t.size t.next

def allocate (t : HandleTable α) (value : α) : Except DriverError (Handle × HandleTable α) :=
  if t.isFull then .error (.tooManyHandles t.capacity)
  else
    let h := t.free
    .ok (h, { t with entries := t.entries.insert h value, next := h.following })

def lookup (t : HandleTable α) (h : Handle) : Except DriverError α :=
  match t.get? h with
  | some value => .ok value
  | none => .error (.badHandle h)

/-- Binds a handle, live or not. -/
def put (t : HandleTable α) (h : Handle) (value : α) : HandleTable α :=
  { t with entries := t.entries.insert h value }

/-- Replaces the value under a live handle. -/
def set (t : HandleTable α) (h : Handle) (value : α) : Except DriverError (HandleTable α) :=
  (t.lookup h).map fun _ => t.put h value

def release (t : HandleTable α) (h : Handle) : Except DriverError (α × HandleTable α) :=
  (t.lookup h).map fun value => (value, { t with entries := t.entries.erase h })

/-- Takes all entries out, in the order of their handles. The counter stays. -/
def drain (t : HandleTable α) : List (Handle × α) × HandleTable α :=
  (t.entries.toList, { t with entries := ∅ })

end HandleTable
end GuestNet
