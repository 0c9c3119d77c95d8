import GuestNet.Overlap.Machine
import Mathlib.Logic.Function.Basic

/-! What overlapping calls do to handles and connections, told as events, and what of a machine the
events are about: which connections a call has or is still to have, and where each one is. -/
namespace GuestNet.Overlap

/-- What others can tell of a step. -/
inductive Event where
  | issued (cell : CellId) (handle : Handle)
  | performed (cell : CellId) (operation : Operation)
  /-- A call that closes a connection gives its handle up, which the table has bound to `found`. -/
  | released (cell : CellId) (handle : Handle) (found : Option CellId)
  /-- A connection is closed, with whatever outcome. -/
  | closed (cell : CellId)
deriving DecidableEq

namespace Stage

variable {W C : Type}

/-- The connection that a call has taken to close it. -/
def holds? : Stage W C → Option CellId
  | taken cell _ => some cell
  | closing cell _ => some cell
  | _ => none

/-- The connection that a call is to close, and the handle under which it found that. -/
def wants? : Stage W C → Option (CellId × Handle)
  | found cell (.close h) => some (cell, h)
  | waiting cell (.close h) => some (cell, h)
  | taken cell h => some (cell, h)
  | _ => none

/-- The connections that a call has drained from the table and still is to close. -/
def pending : Stage W C → List CellId
  | found cell (.closeEach rest) => cell :: rest
  | waiting cell (.closeEach rest) => cell :: rest
  | closing _ rest => rest
  | _ => []

@[simp] theorem holds?_closeNext (cells : List CellId) :
    (closeNext cells : Stage W C).holds? = none := by
  cases cells <;> rfl

@[simp] theorem wants?_closeNext (cells : List CellId) :
    (closeNext cells : Stage W C).wants? = none := by
  cases cells <;> rfl

@[simp] theorem pending_closeNext (cells : List CellId) :
    (closeNext cells : Stage W C).pending = cells := by
  cases cells <;> rfl

end Stage

namespace Machine

variable {W C : Type}

def phase? (m : Machine W C) (cell : CellId) : Option Phase := m.cells[cell]?.map Cell.phase

/-- What the next step of a call will be told as. -/
def event? (m : Machine W C) (id : CallId) : Option Event :=
  m.calls[id]?.bind fun
    | .connected _ =>
      if m.table.isFull then none else some (.issued m.cells.size m.table.free)
    | .performing cell op => some (.performed cell op)
    | .taken cell h => some (.released cell h (m.table.get? h))
    | .closing cell _ => some (.closed cell)
    | _ => none

/-- No call is in flight. -/
def Quiet (m : Machine W C) : Prop :=
  ∀ (id : CallId) (s : Stage W C), m.calls[id]? = some s → ∃ outcome, s = .finished outcome

theorem quiet_iff {m : Machine W C} :
    m.Quiet ↔ (m.calls.toList.all fun s => s.outcome?.isSome) = true := by
  rw [List.all_eq_true]
  constructor
  · intro hq s hs
    obtain ⟨id, hs⟩ := Array.getElem?_of_mem (Array.mem_toList_iff.mp hs)
    obtain ⟨outcome, rfl⟩ := hq id s hs
    rfl
  · intro ha id s hs
    have ho := ha s (Array.mem_toList_iff.mpr (Array.mem_of_getElem? hs))
    cases s with
    | finished outcome => exact ⟨outcome, rfl⟩
    | _ => cases ho

theorem phase?_eq_none {m : Machine W C} {cell : CellId} (h : m.cells.size ≤ cell) :
    m.phase? cell = none := by
  simp [phase?, h]

theorem lt_of_phase? {m : Machine W C} {cell : CellId} {p : Phase} (h : m.phase? cell = some p) :
    cell < m.cells.size := by
  by_contra hn
  rw [phase?_eq_none (Nat.le_of_not_lt hn)] at h
  cases h

theorem phase?_changeCell (m : Machine W C) (cell : CellId) (f : Cell C → Cell C)
    (hf : ∀ c, (f c).phase = c.phase) : (m.changeCell cell f).phase? = m.phase? := by
  funext k
  simp only [phase?, changeCell, Array.getElem?_modify]
  split
  · rw [Option.map_map]
    exact Option.map_congr fun c _ => hf c
  · rfl

theorem phase?_changeCell_of_eq (m : Machine W C) (cell : CellId) {p : Phase} (f : Cell C → Cell C)
    (hf : ∀ c, (f c).phase = p) : (m.changeCell cell f).phase? =
      Function.update m.phase? cell ((m.phase? cell).map fun _ => p) := by
  funext k
  rw [Function.update_apply]
  simp only [phase?, changeCell, Array.getElem?_modify, eq_comm (a := cell), Option.map_map]
  split
  · rename_i he
    rw [he, Option.map_map]
    exact Option.map_congr fun c _ => hf c
  · rfl

theorem phase?_leave (m : Machine W C) (cell : CellId) : (m.leave cell).phase? = m.phase? :=
  phase?_changeCell m cell _ fun _ => rfl

theorem phase?_setPhase (m : Machine W C) (cell : CellId) (p : Phase) :
    (m.setPhase cell p).phase? =
      Function.update m.phase? cell ((m.phase? cell).map fun _ => p) :=
  phase?_changeCell_of_eq m cell _ fun _ => rfl

theorem phase?_push (m : Machine W C) (c : Cell C) :
    ({ m with cells := m.cells.push c } : Machine W C).phase? =
      Function.update m.phase? m.cells.size (some c.phase) := by
  funext k
  rw [Function.update_apply]
  simp only [phase?, Array.getElem?_push]
  split <;> rfl

end Machine
end GuestNet.Overlap
