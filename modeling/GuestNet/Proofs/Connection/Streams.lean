import GuestNet.Http.Body
import GuestNet.Proofs.Connection.Transfers
import GuestNet.Scripted.Script
import GuestNet.Stream.Socket

/-! What the connections that there are have to give: a socket what has arrived, an answer to a
request what is left of its body, a scripted connection what its script has left. -/
namespace GuestNet

open Connection

/-- A stream that comes to an end. -/
theorem Connection.Streams.ofList {C : Type} [Connection C] {left : C → Bytes}
    (read : ∀ (len : Nat) (c : C),
      left c = given (Connection.read len c).1 ++ left (Connection.read len c).2)
    (write : ∀ (data : Bytes) (c : C), left (Connection.write data c).2 = left c) :
    Connection.Streams fun c => Stream'.Seq.ofList (left c) where
  read len c := by rw [← Stream'.Seq.ofList_append, ← read]
  write data c := by rw [write]

namespace Stream.Socket

theorem arrived_read (len : Nat) (s : Socket) :
    s.arrived = given (s.read len).1 ++ (s.read len).2.arrived := by
  unfold read
  split
  · exact (List.take_append_drop len s.arrived).symm
  · split
    · split <;> rfl
    · rfl
    · rfl

theorem arrived_write (data : Bytes) (s : Socket) : (s.write data).2.arrived = s.arrived := by
  have hsend : (s.send data).2.arrived = s.arrived := by
    unfold send
    dsimp only
    split <;> rfl
  unfold write
  split
  · exact hsend
  · exact hsend
  · rfl
  · rfl
  · rfl

theorem streams : Connection.Streams fun s : Socket => Stream'.Seq.ofList s.arrived :=
  .ofList arrived_read arrived_write

end Stream.Socket

namespace Http

def Frame.data : Frame → Bytes
  | bytes data => data
  | broken => []

namespace ResponseConnection

/-- What is left of a body. -/
def left (c : ResponseConnection) : Bytes := c.pending ++ (c.frames.getD []).flatMap Frame.data

theorem left_readFrames {c : ResponseConnection} (hc : c.pending = []) (len : Nat)
    (frames : List Frame) : frames.flatMap Frame.data =
      given (c.readFrames len frames).1 ++ (c.readFrames len frames).2.left := by
  induction frames with
  | nil => simp [readFrames, given, left, hc]
  | cons frame rest ih =>
    cases frame with
    | broken => simp [readFrames, given, left, hc, Frame.data]
    | bytes data =>
      cases data with
      | nil => simpa [readFrames, Frame.data] using ih
      | cons b data => simp [readFrames, given, left, Frame.data, ← List.append_assoc]

theorem left_read (len : Nat) (c : ResponseConnection) :
    c.left = given (c.read len).1 ++ (c.read len).2.left := by
  unfold read
  split
  · rfl
  · split
    · simp [takePending, given, left, ← List.append_assoc]
    · rename_i hp
      rw [not_not] at hp
      split
      · rfl
      · rename_i frames hf
        rw [← left_readFrames hp len frames]
        simp [left, hp, hf]

theorem streams : Connection.Streams fun c : ResponseConnection => Stream'.Seq.ofList c.left :=
  .ofList left_read fun _ _ => rfl

end ResponseConnection
end Http

namespace Scripted.Link

def left (l : Link) : Bytes :=
  match l.medium with
  | .payload rest => rest
  | .response c => c.left

theorem left_read (len : Nat) (l : Link) :
    l.left = given (l.read len).1 ++ (l.read len).2.left := by
  unfold read
  split
  · rename_i c hm
    simp only [left, hm]
    exact c.left_read len
  · rename_i rest hm
    dsimp only
    split
    · simp [left, hm, given]
    · simp [left, hm, given]

theorem left_write (data : Bytes) (l : Link) : (l.write data).2.left = l.left := by
  unfold write
  split
  · rename_i c hm
    simp only [left, hm]
    rfl
  · rename_i rest hm
    dsimp only
    split <;> simp [left, hm]

theorem streams : Connection.Streams fun l : Link => Stream'.Seq.ofList l.left :=
  .ofList left_read left_write

end Scripted.Link

/-- A backend of raw streams that gives so many bytes and never fails. -/
def Scripted.Script.plain (payload : Bytes) : Scripted.Script where
  schemes := ["tcp"]
  kind := .stream
  payload := payload
  readLimit := none
  writeLimit := none
  connectFaults := []
  readFaults := []
  writeFaults := []
  closeFaults := []
  response := none
  held := []

end GuestNet
