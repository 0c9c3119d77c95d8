import GuestNet.Connection
import Mathlib.Data.Seq.Basic

/-! What operations on a connection give, one after another. What a connection has to give is a
stream: every read takes from its front what it gives, and nothing else takes anything. -/
namespace GuestNet

theorem exists_of_map_eq_ok {α β : Type} {f : α → β} {x : Except DriverError α} {b : β}
    (h : x.map f = .ok b) : ∃ a, x = .ok a ∧ f a = b := by
  cases x with
  | error e => cases h
  | ok a => exact ⟨a, rfl, Except.ok.inj h⟩

/-- The replies that an operation can have. -/
def Operation.Gives : Operation → Reply → Prop
  | .read _, .bytes _ => True
  | .write _, .number _ => True
  | .status, .number _ => True
  | .header _, .bytes _ => True
  | .kind, .kind _ => True
  | _, _ => False

/-- The bytes that a read has come back with. -/
def Operation.chunk? : Operation → Option Outcome → Option Bytes
  | .read _, some (.ok (.bytes data)) => some data
  | _, _ => none

variable {C : Type} [Connection C]

/-- What a read gives, which is nothing where it fails. -/
def Connection.given : Except DriverError Bytes → Bytes
  | .ok data => data
  | .error _ => []

/-- `left` is what a connection still has to give, which may be without end. -/
structure Connection.Streams (left : C → Stream'.Seq UInt8) : Prop where
  read : ∀ (len : Nat) (c : C), left c =
    (Stream'.Seq.ofList (given (Connection.read len c).1)).append (left (Connection.read len c).2)
  write : ∀ (data : Bytes) (c : C), left (Connection.write data c).2 = left c

namespace Slot

theorem gives_of_perform {limit : Nat} {s : Slot C} {op : Operation} {reply : Reply}
    (h : (s.perform limit op).1 = .ok reply) : op.Gives reply := by
  cases op with
  | kind =>
    cases h
    trivial
  | read | write | status | header =>
    obtain ⟨_, -, rfl⟩ := exists_of_map_eq_ok h
    trivial

/-- Does one thing after another. -/
def performAll (limit : Nat) : List Operation → Slot C → List Outcome × Slot C
  | [], s => ([], s)
  | op :: ops, s =>
    ((s.perform limit op).1 :: (performAll limit ops (s.perform limit op).2).1,
      (performAll limit ops (s.perform limit op).2).2)

theorem performAll_concat (limit : Nat) (ops : List Operation) (op : Operation) (s : Slot C) :
    performAll limit (ops ++ [op]) s =
      ((performAll limit ops s).1 ++ [((performAll limit ops s).2.perform limit op).1],
        ((performAll limit ops s).2.perform limit op).2) := by
  induction ops generalizing s with
  | nil => rfl
  | cons first ops ih =>
    rw [List.cons_append, performAll, ih]
    rfl

/-- What the reads among some operations have come back with. -/
def chunks (asked : List (Operation × Option Outcome)) : List Bytes :=
  asked.filterMap fun x => x.1.chunk? x.2

variable {left : C → Stream'.Seq UInt8}

theorem left_perform (hl : Connection.Streams left) (limit : Nat) (s : Slot C) (op : Operation) :
    left s.connection = (Stream'.Seq.ofList
      ((op.chunk? (some (s.perform limit op).1)).getD [])).append
        (left (s.perform limit op).2.connection) := by
  cases op with
  | read len =>
    have hread := hl.read (min len limit) s.connection
    cases hr : (Connection.read (min len limit) s.connection).1 with
    | error e => simpa [perform, hr, Except.map, Operation.chunk?, Connection.given] using hread
    | ok data => simpa [perform, hr, Except.map, Operation.chunk?, Connection.given] using hread
  | write data => simp [perform, Operation.chunk?, hl.write]
  | status => simp [perform, Operation.chunk?]
  | header name => simp [perform, Operation.chunk?]
  | kind => simp [perform, Operation.chunk?]

/-- The reads among some operations take from the stream what they give, and the others take
nothing. -/
theorem left_performAll (hl : Connection.Streams left) (limit : Nat) (ops : List Operation)
    (s : Slot C) :
    left s.connection = (Stream'.Seq.ofList
      (chunks (ops.zip ((performAll limit ops s).1.map some))).flatten).append
        (left (performAll limit ops s).2.connection) := by
  induction ops generalizing s with
  | nil => simp [chunks, performAll]
  | cons op ops ih =>
    have hchunks :
        (chunks ((op :: ops).zip ((performAll limit (op :: ops) s).1.map some))).flatten =
          (op.chunk? (some (s.perform limit op).1)).getD [] ++ (chunks
            (ops.zip ((performAll limit ops (s.perform limit op).2).1.map some))).flatten := by
      simp only [performAll, chunks, List.map_cons, List.zip_cons_cons, List.filterMap_cons]
      cases op.chunk? (some (s.perform limit op).1) <;> rfl
    rw [hchunks, Stream'.Seq.ofList_append, Stream'.Seq.append_assoc]
    exact (left_perform hl limit s op).trans (congrArg _ (ih (s.perform limit op).2))

end Slot
end GuestNet
