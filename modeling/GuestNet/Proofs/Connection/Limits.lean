import GuestNet.Driver
import GuestNet.Proofs.Connection.Streams

/-! How much a call can move. A connection gives no more bytes than it is asked for and tells of no
more than it was given, and the host asks for no more than its limit. -/
namespace GuestNet

/-- What the host relies on in connections of a type. -/
structure Connection.KeepsLimits (C : Type) [Connection C] : Prop where
  read : ∀ {len : Nat} {c : C} {data : Bytes}, (Connection.read len c).1 = .ok data →
    data.length ≤ len
  write : ∀ {data : Bytes} {c : C} {n : Nat}, (Connection.write data c).1 = .ok n →
    n ≤ data.length

namespace Stream.Socket

theorem keepsLimits : Connection.KeepsLimits Socket where
  read {len s data} h := by
    change (s.read len).1 = _ at h
    unfold read at h
    split at h
    · cases h
      exact List.length_take_le len s.arrived
    · split at h
      · split at h
        · cases h
        · cases h
          exact Nat.zero_le len
      · cases h
      · cases h
        exact Nat.zero_le len
  write {data s n} h := by
    have hsend {n : Nat} (h : (s.send data).1 = .ok n) : n ≤ data.length := by
      unfold send at h
      dsimp only at h
      split at h
      · cases h
      · cases h
        exact min_le_left ..
    change (s.write data).1 = _ at h
    unfold write at h
    split at h
    · exact hsend h
    · exact hsend h
    · cases h
      exact le_rfl
    · cases h
    · cases h

end Stream.Socket

namespace Http.ResponseConnection

theorem length_of_readFrames {c : ResponseConnection} {len : Nat} {frames : List Frame}
    {data : Bytes} (h : (c.readFrames len frames).1 = .ok data) : data.length ≤ len := by
  induction frames with
  | nil =>
    cases h
    exact Nat.zero_le len
  | cons frame rest ih =>
    cases frame with
    | broken => cases h
    | bytes data =>
      cases data with
      | nil => exact ih h
      | cons b bs =>
        cases h
        exact List.length_take_le len (b :: bs)

theorem keepsLimits : Connection.KeepsLimits ResponseConnection where
  read {len c data} h := by
    change (c.read len).1 = _ at h
    unfold read at h
    split at h
    · cases h
      exact Nat.zero_le len
    · split at h
      · cases h
        exact List.length_take_le len c.pending
      · split at h
        · cases h
          exact Nat.zero_le len
        · exact length_of_readFrames h
  write h := by cases h

end Http.ResponseConnection

namespace Scripted.Link

theorem within_le (limit : Option Nat) (len : Nat) : within limit len ≤ len := by
  cases limit with
  | none => exact le_rfl
  | some n => exact min_le_left len n

theorem keepsLimits : Connection.KeepsLimits Link where
  read {len l data} h := by
    change (l.read len).1 = _ at h
    unfold read at h
    split at h
    · exact Http.ResponseConnection.keepsLimits.read h
    · dsimp only at h
      split at h
      · cases h
      · cases h
        exact (List.length_take_le ..).trans (within_le _ len)
  write {data l n} h := by
    change (l.write data).1 = _ at h
    unfold write at h
    split at h
    · rename_i c _
      exact Http.ResponseConnection.keepsLimits.write (c := c) h
    · dsimp only at h
      split at h
      · cases h
      · cases h
        exact within_le _ data.length

end Scripted.Link

theorem Connection.KeepsLimits.sum {A B : Type} [Connection A] [Connection B]
    (ha : KeepsLimits A) (hb : KeepsLimits B) : KeepsLimits (A ⊕ B) where
  read {len c data} h := by
    cases c with
    | inl a => exact ha.read h
    | inr b => exact hb.read h
  write {data c n} h := by
    cases c with
    | inl a => exact ha.write h
    | inr b => exact hb.write h

/-- The replies that a call can have under a limit. -/
def Call.Gives (limit : Nat) : Call → Reply → Prop
  | .openTarget _ _, .handle _ => True
  | .perform _ (.read len), .bytes data => data.length ≤ min len limit
  | .perform _ (.write data), .number n => n ≤ min data.length limit
  | .perform _ op, reply => op.Gives reply
  | .close _, .nothing => True
  | .closeAll, .nothing => True
  | .isOpen _, .flag _ => True
  | _, _ => False

/-- What comes of a call is of the kind that was asked for, and no more than the limit. -/
def Host.KeepsLimits (S : Type) [Host S] : Prop :=
  ∀ (s : S) {call : Call} {reply : Reply}, (Host.call call s).1 = .ok reply →
    call.Gives (Host.maxTransfer s) reply

namespace Driver

variable {W C : Type} [Connection C]

theorem gives_of_perform (hC : Connection.KeepsLimits C) (d : Driver W C) {h : Handle}
    {op : Operation} {reply : Reply} (hr : (d.perform h op).1 = .ok reply) :
    (Call.perform h op).Gives d.setup.config.maxTransfer reply := by
  rw [perform] at hr
  split at hr
  · cases hr
  · rename_i slot _
    have hs : (slot.perform d.setup.config.maxTransfer op).1 = .ok reply := hr
    cases op with
    | read len =>
      obtain ⟨data, hread, rfl⟩ := exists_of_map_eq_ok hs
      exact hC.read hread
    | write data =>
      obtain ⟨n, hwrite, rfl⟩ := exists_of_map_eq_ok hs
      exact (hC.write hwrite).trans_eq (by rw [List.length_take, min_comm])
    | status => exact Slot.gives_of_perform hs
    | header => exact Slot.gives_of_perform hs
    | kind => exact Slot.gives_of_perform hs

theorem keepsLimits (hC : Connection.KeepsLimits C) : Host.KeepsLimits (Driver W C) := by
  intro d call reply hr
  cases call with
  | perform h op => exact d.gives_of_perform hC hr
  | openTarget target options =>
    obtain ⟨_, -, rfl⟩ := exists_of_map_eq_ok hr
    trivial
  | close h =>
    obtain ⟨_, -, rfl⟩ := exists_of_map_eq_ok hr
    trivial
  | closeAll =>
    cases hr
    trivial
  | isOpen h =>
    cases hr
    trivial

end Driver
end GuestNet
