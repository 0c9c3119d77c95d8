import GuestNet.Overlap.Machine
import Mathlib.Data.List.Basic

/-! What calls do on the way, told as marks that bear the number of the call: which connections were
made for it, and between which moments a connection was at work for it. -/
namespace GuestNet.Overlap

/-- What a connection can be made to do. -/
inductive Work where
  | operation (operation : Operation)
  | close
deriving DecidableEq, Repr

inductive Mark (C : Type) where
  /-- A backend has made a connection for the call. -/
  | made (call : CallId) (connection : C)
  /-- The connection has a cell from now on, and a handle unless it was refused one. -/
  | placed (call : CallId) (cell : CellId) (connection : C) (result : Except DriverError Handle)
  | started (call : CallId) (cell : CellId) (work : Work)
  | ended (call : CallId) (cell : CellId) (work : Work)

namespace Stage

variable {W C : Type}

def connection? : Stage W C → Option C
  | connected c => some c
  | _ => none

/-- The cell whose connection is at work for a call, and what it does. -/
def work? : Stage W C → Option (CellId × Work)
  | performing cell op => some (cell, .operation op)
  | closing cell _ => some (cell, .close)
  | _ => none

/-- The cell that a call has to itself. -/
def cell? : Stage W C → Option CellId
  | performing cell _ => some cell
  | taken cell _ => some cell
  | closing cell _ => some cell
  | _ => none

/-- What a call that opens comes back with. -/
def opened? : Stage W C → Option (Except DriverError Handle)
  | finished (.ok (.handle h)) => some (.ok h)
  | finished (.error e) => some (.error e)
  | _ => none

theorem cell?_of_work? {s : Stage W C} {c : CellId} {w : Work} (h : s.work? = some (c, w)) :
    s.cell? = some c := by
  cases s <;> simp_all [work?, cell?]

@[simp] theorem cell?_closeNext (cells : List CellId) :
    (closeNext cells : Stage W C).cell? = none := by
  cases cells <;> rfl

@[simp] theorem work?_closeNext (cells : List CellId) :
    (closeNext cells : Stage W C).work? = none := by
  cases cells <;> rfl

@[simp] theorem connection?_closeNext (cells : List CellId) :
    (closeNext cells : Stage W C).connection? = none := by
  cases cells <;> rfl

theorem opened?_closeNext (cells : List CellId) (h : Handle) :
    (closeNext cells : Stage W C).opened? ≠ some (.ok h) := by
  cases cells <;> simp [closeNext, opened?]

/-- What is told of a call that gets from a stage to another one, where a connection that gets a
cell gets the cell `fresh`. -/
def told (id : CallId) (fresh : CellId) (before : Option (Stage W C)) (after : Stage W C) :
    List (Mark C) :=
  (after.connection?.toList.map fun c => .made id c) ++
    ((before.bind connection?).toList.flatMap fun c =>
      after.opened?.toList.map fun r => .placed id fresh c r) ++
    ((before.bind work?).toList.map fun w => .ended id w.1 w.2) ++
    (after.work?.toList.map fun w => .started id w.1 w.2)

variable {id k : CallId} {fresh c : CellId} {before : Option (Stage W C)} {after : Stage W C}

theorem made_mem_told {o : C} :
    .made k o ∈ told id fresh before after ↔ k = id ∧ after.connection? = some o := by
  simp [told, and_comm, eq_comm]

theorem placed_mem_told {o : C} {r : Except DriverError Handle} :
    .placed k c o r ∈ told id fresh before after ↔
      k = id ∧ c = fresh ∧ before.bind connection? = some o ∧ after.opened? = some r := by
  simp [told]
  tauto

end Stage

namespace Machine

variable {W C : Type}

/-- What is told of a step that a call has taken. -/
def marks (m m' : Machine W C) (id : CallId) : List (Mark C) :=
  m'.calls[id]?.toList.flatMap (Stage.told id m.cells.size m.calls[id]?)

/-- The call that has a cell, or is the next to have it. -/
def first? (m : Machine W C) (cell : CellId) : Option CallId :=
  m.cells[cell]?.bind fun c => c.line.head?

def slot? (m : Machine W C) (cell : CellId) : Option (Slot C) := m.cells[cell]?.map Cell.slot

end Machine

variable {W C : Type} [Connection C]

/-- What can come of a driver without calls, as in `Reachable`, with the marks on the way. -/
inductive Chronicle (config : Config) (backends : List (Backend W C)) (world : W) :
    List (Mark C) → Machine W C → Prop where
  | new : Chronicle config backends world [] (.new config backends world)
  | begin {trace : List (Mark C)} {m : Machine W C} (call : Call) :
      Chronicle config backends world trace m → Chronicle config backends world trace (m.begin call)
  | step {trace : List (Mark C)} {m m' : Machine W C} (id : CallId) :
      Chronicle config backends world trace m → m.step id = some m' →
        Chronicle config backends world (trace ++ m.marks m' id) m'
  | reorder {trace : List (Mark C)} {m : Machine W C} (id : CallId) {cells cells' : List CellId} :
      Chronicle config backends world trace m → m.calls[id]? = some (.closeNext cells) →
        cells.Perm cells' → Chronicle config backends world trace (m.put id (.closeNext cells'))

variable {config : Config} {backends : List (Backend W C)} {world : W} {trace : List (Mark C)}
  {m : Machine W C}

theorem reachable_iff_chronicle :
    Reachable config backends world m ↔ ∃ trace, Chronicle config backends world trace m := by
  constructor
  · intro h
    induction h with
    | new => exact ⟨[], .new⟩
    | begin call _ ih =>
      obtain ⟨trace, ht⟩ := ih
      exact ⟨trace, .begin call ht⟩
    | step id _ hs ih =>
      obtain ⟨trace, ht⟩ := ih
      exact ⟨_, .step id ht hs⟩
    | reorder id _ hc hp ih =>
      obtain ⟨trace, ht⟩ := ih
      exact ⟨trace, .reorder id ht hc hp⟩
  · rintro ⟨trace, h⟩
    induction h with
    | new => exact .new
    | begin call _ ih => exact .begin call ih
    | step id _ hs ih => exact .step id ih hs
    | reorder id _ hc hp ih => exact .reorder id ih hc hp

end GuestNet.Overlap
