import GuestNet.Proofs.Connection.Limits

/-! What connections take. A write takes as much as it tells of what it is given, from the first
byte on, and nothing else takes anything. -/
namespace GuestNet

/-- What a write takes, which is nothing where it fails. -/
def Connection.takenOf (data : Bytes) : Except DriverError Nat → Bytes
  | .ok n => data.take n
  | .error _ => []

variable {C : Type} [Connection C]

/-- `taken` is what a connection has taken so far. -/
structure Connection.Accepts (taken : C → Bytes) : Prop where
  write : ∀ (data : Bytes) (c : C), taken (Connection.write data c).2 =
    taken c ++ takenOf data (Connection.write data c).1
  read : ∀ (len : Nat) (c : C), taken (Connection.read len c).2 = taken c

/-- The bytes of which a write tells that they have moved. -/
def Operation.moved : Operation → Outcome → Bytes
  | .write data, .ok (.number n) => data.take n
  | _, _ => []

theorem Slot.taken_perform (hC : Connection.KeepsLimits C) {taken : C → Bytes}
    (ha : Connection.Accepts taken) (limit : Nat) (s : Slot C) (op : Operation) :
    taken (s.perform limit op).2.connection =
      taken s.connection ++ op.moved (s.perform limit op).1 := by
  cases op with
  | read len =>
    have hm : (Operation.read len).moved (s.perform limit (.read len)).1 = [] := rfl
    rw [hm, List.append_nil]
    exact ha.read (min len limit) s.connection
  | write data =>
    have hwrite := ha.write (data.take limit) s.connection
    cases hr : (Connection.write (data.take limit) s.connection).1 with
    | error e =>
      rw [hr] at hwrite
      simpa [perform, hr, Except.map, Operation.moved, Connection.takenOf] using hwrite
    | ok n =>
      -- the limit does not show in what a write tells
      have hn : min n limit = n := by
        have hle := hC.write hr
        rw [List.length_take] at hle
        omega
      rw [hr] at hwrite
      simpa [perform, hr, Except.map, Operation.moved, Connection.takenOf, List.take_take, hn]
        using hwrite
  | status => simp [perform, Operation.moved]
  | header name => simp [perform, Operation.moved]
  | kind => simp [perform, Operation.moved]

theorem Scripted.Link.accepts : Connection.Accepts Scripted.Link.written where
  write data l := by
    change (l.write data).2.written = _ ++ Connection.takenOf data (l.write data).1
    unfold write
    split
    · exact (List.append_nil _).symm
    · dsimp only
      split
      · exact (List.append_nil _).symm
      · rfl
  read len l := by
    change (l.read len).2.written = _
    unfold read
    split
    · rfl
    · dsimp only
      split <;> rfl

end GuestNet
