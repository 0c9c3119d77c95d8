import GuestNet.Call

/-! Calls that overlap, each at a stage of its own, and the cells in which the connections are that
they want. A cell serves one call at a time, in the order in which they came. -/
namespace GuestNet.Overlap

abbrev CallId := Nat

abbrev CellId := Nat

/-- Where a connection is. -/
inductive Phase where
  /-- In its cell, for the calls that reach it. -/
  | bound
  /-- With the call that closes it. -/
  | taken
  /-- Let go of. -/
  | released
deriving DecidableEq, Repr

structure Cell (C : Type) where
  slot : Slot C
  phase : Phase
  /-- The calls that want the connection. The first one has it. -/
  line : List CallId

/-- What a call wants of a cell. -/
inductive Task where
  | perform (handle : Handle) (operation : Operation)
  | close (handle : Handle)
  /-- To close this connection, and those in other cells afterwards. -/
  | closeEach (rest : List CellId)
deriving DecidableEq, Repr

inductive Stage (W C : Type) where
  | asked (call : Call)
  /-- A backend is making a connection. -/
  | connecting (target : Target) (options : String) (backend : Backend W C)
  | connected (connection : C)
  /-- The handle was found in the table. -/
  | found (cell : CellId) (task : Task)
  /-- The call stands in the line of a cell. -/
  | waiting (cell : CellId) (task : Task)
  /-- The connection is at work. -/
  | performing (cell : CellId) (operation : Operation)
  /-- The call has taken the connection out of its cell, and its handle is still in the table. -/
  | taken (cell : CellId) (handle : Handle)
  /-- The connection is closing. -/
  | closing (cell : CellId) (rest : List CellId)
  | finished (outcome : Outcome)

namespace Stage

variable {W C : Type}

/-- Goes on to the next of several cells. -/
def closeNext : List CellId → Stage W C
  | [] => finished (.ok .nothing)
  | cell :: rest => found cell (.closeEach rest)

def outcome? : Stage W C → Option Outcome
  | finished outcome => some outcome
  | _ => none

end Stage
end GuestNet.Overlap
