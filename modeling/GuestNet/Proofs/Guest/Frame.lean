import GuestNet.Proofs.Guest.Requests

/-! What a guest's call touches. The call is told once more so that it comes to nothing at the first
byte outside the memory, or outside a buffer of the host; it never does. Where a call succeeds, the
bytes that change are those of its slot and of the part of its buffer that it fills. -/
namespace GuestNet

/-- A run that may fail, or come to nothing. -/
abbrev Strict (α : Type) := ExceptT DriverError Option α

/-- A strict run that comes to what another run does. -/
def Strict.Is {α : Type} (x : Strict α) (y : Except DriverError α) : Prop := x.run = some y

namespace Strict.Is

variable {α β : Type} {x : Strict α} {y : Except DriverError α}

theorem lift (y : Except DriverError α) : Strict.Is (liftM y) y := rfl

theorem pure (a : α) : Strict.Is (Pure.pure a) (Pure.pure a) := rfl

theorem bind {f : α → Strict β} {g : α → Except DriverError β} (hx : x.Is y)
    (hf : ∀ a, y = .ok a → (f a).Is (g a)) : Strict.Is (x >>= f) (y >>= g) := by
  unfold Is at hx ⊢
  rw [ExceptT.run_bind, hx]
  cases y with
  | error e => rfl
  | ok a => exact hf a rfl

theorem of_some {o : Option α} {a : α} (h : o = some a) :
    Strict.Is (liftM o) (Pure.pure a) := by
  subst h
  rfl

end Strict.Is

namespace Memory

/-- What is in a range, which has to lie within the memory. -/
def slice? (m : Memory) (start stop : Nat) : Option Bytes :=
  if start ≤ stop ∧ stop ≤ m.size then some (m.slice start stop) else none

/-- Puts bytes into a range, which has to lie within the memory and to be as long as they are. -/
def overwrite? (m : Memory) (start stop : Nat) (bs : Bytes) : Option Memory :=
  if start + bs.length = stop ∧ stop ≤ m.size then some (m.overwrite start bs) else none

def read? (m : Memory) (ptr len : UInt32) : Strict Bytes := do
  let (start, stop) ← range m.size ptr len
  m.slice? start stop

def readText? (m : Memory) (ptr len : UInt32) : Strict String := do
  let bs ← m.read? ptr len
  match bs.decode? with
  | some text => return text
  | none => throw (.badParams "string is not valid UTF-8")

def write? (m : Memory) (ptr : UInt32) (bs : Bytes) : Strict Memory :=
  if 0x100000000 ≤ bs.length then
    throw (.memoryAccess ("length " ++ toString bs.length ++ " exceeds u32"))
  else do
    let (start, stop) ← range m.size ptr (.ofNat bs.length)
    m.overwrite? start stop bs

theorem range_eq_ok_iff {size : Nat} {ptr len : UInt32} {r : Nat × Nat} :
    range size ptr len = .ok r ↔
      ptr.toNat + len.toNat ≤ size ∧ r = (ptr.toNat, ptr.toNat + len.toNat) := by
  rw [range]
  split
  · rename_i h
    simp [h, eq_comm]
  · rename_i h
    simp [h]

theorem read?_is (m : Memory) (ptr len : UInt32) : (m.read? ptr len).Is (m.read ptr len) := by
  have hread : m.read ptr len =
      range m.size ptr len >>= fun r => Pure.pure (m.slice r.1 r.2) := rfl
  rw [hread]
  refine Strict.Is.bind (.lift _) fun r hr => ?_
  obtain ⟨hle, rfl⟩ := range_eq_ok_iff.mp hr
  exact .of_some (if_pos ⟨Nat.le_add_right .., hle⟩)

theorem readText?_is (m : Memory) (ptr len : UInt32) :
    (m.readText? ptr len).Is (m.readText ptr len) := by
  have hread : m.readText ptr len = m.read ptr len >>= fun bs =>
      match bs.decode? with
      | some text => Pure.pure text
      | none => throw (.badParams "string is not valid UTF-8") := by
    rw [readText]
    cases m.read ptr len <;> rfl
  rw [hread]
  refine Strict.Is.bind (m.read?_is ptr len) fun bs _ => ?_
  cases bs.decode? <;> rfl

theorem write?_is (m : Memory) (ptr : UInt32) (bs : Bytes) :
    (m.write? ptr bs).Is (m.write ptr bs) := by
  rw [write?, write]
  split
  · rfl
  · rename_i hlt
    have hmap : (range m.size ptr (.ofNat bs.length)).map (fun (start, _) => m.overwrite start bs) =
        range m.size ptr (.ofNat bs.length) >>= fun r => Pure.pure (m.overwrite r.1 bs) := rfl
    rw [hmap]
    refine Strict.Is.bind (.lift _) fun r hr => ?_
    obtain ⟨hle, rfl⟩ := range_eq_ok_iff.mp hr
    have hlen : (UInt32.ofNat bs.length).toNat = bs.length :=
      UInt32.toNat_ofNat_of_lt' (Nat.not_le.mp hlt)
    exact .of_some (if_pos ⟨by rw [hlen], hle⟩)

end Memory

namespace GuestCall

variable {S : Type} [Host S]

/-- As `request`, with strict reads. -/
def request? (s : S) (m : Memory) : GuestCall → Strict Call
  | openTarget target targetLen options optionsLen handleOut => do
    checkSlot m handleOut
    let target ← m.readText? target targetLen
    let options ← m.readText? options optionsLen
    return .openTarget target options
  | read handle buffer bufferLen countOut => do
    checkHandle s handle
    checkSlot m countOut
    checkBuffer m buffer bufferLen
    return .perform handle (.read (min bufferLen.toNat (Host.maxTransfer s)))
  | write handle buffer bufferLen countOut => do
    checkHandle s handle
    checkSlot m countOut
    let data ← m.read? buffer bufferLen
    return .perform handle (.write (data.take (Host.maxTransfer s)))
  | close handle => return .close handle
  | status handle statusOut => do
    checkHandle s handle
    checkSlot m statusOut
    return .perform handle .status
  | header handle name nameLen buffer bufferLen countOut => do
    checkHandle s handle
    checkSlot m countOut
    checkBuffer m buffer bufferLen
    let name ← m.readText? name nameLen
    return .perform handle (.header name)

theorem request?_is (s : S) (m : Memory) (c : GuestCall) :
    (c.request? s m).Is (c.request s m) := by
  cases c with
  | openTarget target targetLen options optionsLen out =>
    refine .bind (.lift (checkSlot m out)) fun _ _ => ?_
    refine .bind (m.readText?_is target targetLen) fun _ _ => ?_
    exact .bind (m.readText?_is options optionsLen) fun _ _ => .pure _
  | read h buffer len out =>
    refine .bind (.lift (checkHandle s h)) fun _ _ => ?_
    refine .bind (.lift (checkSlot m out)) fun _ _ => ?_
    exact .bind (.lift (checkBuffer m buffer len)) fun _ _ => .pure _
  | write h buffer len out =>
    refine .bind (.lift (checkHandle s h)) fun _ _ => ?_
    refine .bind (.lift (checkSlot m out)) fun _ _ => ?_
    exact .bind (m.read?_is buffer len) fun _ _ => .pure _
  | close h => exact .pure _
  | status h out =>
    refine .bind (.lift (checkHandle s h)) fun _ _ => ?_
    exact .bind (.lift (checkSlot m out)) fun _ _ => .pure _
  | header h name nameLen buffer len out =>
    refine .bind (.lift (checkHandle s h)) fun _ _ => ?_
    refine .bind (.lift (checkSlot m out)) fun _ _ => ?_
    refine .bind (.lift (checkBuffer m buffer len)) fun _ _ => ?_
    exact .bind (m.readText?_is name nameLen) fun _ _ => .pure _

def storeWord? (m : Memory) (ptr value : UInt32) : Option (Except DriverError Unit × Memory) :=
  (m.write? ptr (Memory.wordBytes value)).run.map fun
    | .error e => (.error e, m)
    | .ok m => (.ok (), m)

def storeBytes? (m : Memory) (buffer countOut : UInt32) (data : Bytes) :
    Option (Except DriverError Unit × Memory) :=
  (m.write? buffer data).run.bind fun
    | .error e => some (.error e, m)
    | .ok m => storeWord? m countOut (.ofNat data.length)

/-- As `store`, with strict writes. What a read gives has to be in the buffer that it was given. -/
def store? (limit : Nat) (m : Memory) :
    GuestCall → Reply → Option (Except DriverError Unit × Memory)
  | openTarget _ _ _ _ handleOut, .handle h => storeWord? m handleOut h
  | read _ buffer bufferLen countOut, .bytes data =>
    if data.length ≤ min bufferLen.toNat limit then storeBytes? m buffer countOut data else none
  | write _ _ _ countOut, .number n => storeWord? m countOut (.ofNat n)
  | status _ statusOut, .number n => storeWord? m statusOut (.ofNat n)
  | header _ _ _ buffer bufferLen countOut, .bytes data =>
    storeBytes? m buffer countOut (data.take bufferLen.toNat)
  | _, _ => some (.ok (), m)

/-- As `run`, with strict reads and writes. -/
def run? (c : GuestCall) (m : Memory) (s : S) : Option (ResultCode × Memory × S) :=
  (c.request? s m).run.bind fun
    | .error e => some (e.code, m, s)
    | .ok call =>
      match Host.call call s with
      | (.error e, s') => some (e.code, m, s')
      | (.ok reply, s') =>
        (c.store? (Host.maxTransfer s) m reply).map fun
          | (.error e, m) => (e.code, m, abandon s' reply)
          | (.ok (), m) => (.success, m, s')

theorem storeWord?_eq (m : Memory) (ptr value : UInt32) :
    storeWord? m ptr value = some (storeWord m ptr value) := by
  have hw : (m.write? ptr (Memory.wordBytes value)).run = some (m.writeWord ptr value) :=
    m.write?_is ptr _
  rw [storeWord?, storeWord, hw]
  cases m.writeWord ptr value <;> rfl

theorem storeBytes?_eq (m : Memory) (buffer countOut : UInt32) (data : Bytes) :
    storeBytes? m buffer countOut data = some (storeBytes m buffer countOut data) := by
  have hw : (m.write? buffer data).run = some (m.write buffer data) := m.write?_is buffer data
  rw [storeBytes?, storeBytes, hw]
  cases m.write buffer data with
  | error e => rfl
  | ok m => exact storeWord?_eq m countOut _

variable {m : Memory} {c : GuestCall} {reply : Reply} {limit : Nat} {s : S}

theorem store?_eq (hr : (c.direct limit m).Gives limit reply) :
    c.store? limit m reply = some (c.store m reply) := by
  cases c with
  | read h buffer len out =>
    cases reply with
    | bytes data =>
      have hlen : data.length ≤ min len.toNat limit := hr.trans (min_le_left ..)
      rw [store?, if_pos hlen]
      exact storeBytes?_eq m buffer out data
    | _ => cases hr
  | openTarget => cases reply <;> first | exact storeWord?_eq .. | rfl
  | write => cases reply <;> first | exact storeWord?_eq .. | rfl
  | status => cases reply <;> first | exact storeWord?_eq .. | rfl
  | header => cases reply <;> first | exact storeBytes?_eq .. | rfl
  | close => rfl

/-- No call touches a byte that it must not. -/
theorem run?_eq (hS : Host.KeepsLimits S) (c : GuestCall) (m : Memory) (s : S) :
    c.run? m s = some (c.run m s) := by
  have hreq : (c.request? s m).run = some (c.request s m) := c.request?_is s m
  rw [run?, hreq, run, Option.bind_some]
  cases hr : c.request s m with
  | error e => rfl
  | ok call =>
    obtain ⟨-, rfl⟩ := direct_of_request hr
    dsimp only
    rcases hcall : Host.call (c.direct (Host.maxTransfer s) m) s with ⟨e | reply, s'⟩
    · rfl
    · dsimp only
      have hgives : (c.direct (Host.maxTransfer s) m).Gives (Host.maxTransfer s) reply :=
        hS s (by rw [hcall])
      have hstore := store?_eq hgives
      generalize c.store m reply = stored at hstore ⊢
      rw [hstore]
      obtain ⟨_ | _, m'⟩ := stored
      · rfl
      · rfl

/-- No call comes to a byte outside the memory or outside a buffer. One that fails leaves the whole
memory as it was. One that succeeds leaves all but its slot and the part of its buffer that it
fills, which then hold the number and as many bytes; where they overlap, the slot has the number. -/
theorem run_touches_own_ranges {W C : Type} [Connection C] (hC : Connection.KeepsLimits C)
    (c : GuestCall) (m : Memory) (d : Driver W C) :
    c.run? m d = some (c.run m d) ∧ (c.run m d).2.1.size = m.size ∧
      ((c.run m d).1 ≠ .success → (c.run m d).2.1 = m) ∧
      ((c.run m d).1 = .success → ∃ reply,
        (Driver.call (c.direct d.setup.config.maxTransfer m) d).1 = .ok reply ∧
        (∀ n, c.capacity? d.setup.config.maxTransfer = some n → c.number reply ≤ n) ∧
        (∀ r, c.buffer? = some r → (c.delivered reply).length = c.number reply) ∧
        ∀ i, (c.run m d).2.1.byte? i =
          (c.slotByte? reply i).or ((c.bufferByte? reply i).or (m.byte? i))) := by
  have hS : Host.KeepsLimits (Driver W C) := Driver.keepsLimits hC
  refine ⟨run?_eq hS c m d, ?_⟩
  cases hr : c.request d m with
  | error e =>
    rw [run_of_request_error hr]
    exact ⟨rfl, fun _ => rfl, fun hs => absurd hs e.code_ne_success⟩
  | ok call =>
    obtain ⟨-, rfl⟩ := direct_of_request hr
    rcases run_of_request hS hr with ⟨e, -, hrun⟩ | ⟨reply, m', hreply, hrun, hsize, hbyte⟩
    · rw [hrun]
      exact ⟨rfl, fun _ => rfl, fun hs => absurd hs e.code_ne_success⟩
    · have hgives := hS d hreply
      rw [hrun]
      exact ⟨hsize, fun hn => absurd rfl hn, fun _ =>
        ⟨reply, hreply, fun _ => number_le hgives, fun _ => length_delivered hgives, hbyte⟩⟩

namespace Overlay

open Scripted

def driver : Driver Tallies Link :=
  ((Driver.new .default [(Script.plain [1, 2, 3, 4, 5, 6, 7]).backend "0"] []).openTarget "a" "").2

/-- The slot lies within the buffer. -/
def call : GuestCall := .read 1 2 8 4

theorem run_call : ((call.run (.zeros 12) driver).1, (call.run (.zeros 12) driver).2.1.bytes) =
    (.success, #[0, 0, 1, 2, 7, 0, 0, 0, 7, 0, 0, 0]) := by
  rfl

theorem run_touches_own_ranges_of_call :
    Connection.KeepsLimits Link ∧
      call.run? (.zeros 12) driver = some (call.run (.zeros 12) driver) ∧
      ∃ reply, (Driver.call (call.direct 65536 (.zeros 12)) driver).1 = .ok reply ∧
        call.number reply ≤ 8 ∧
        ∀ i, (call.run (.zeros 12) driver).2.1.byte? i = (call.slotByte? reply i).or
          ((call.bufferByte? reply i).or ((Memory.zeros 12).byte? i)) := by
  obtain ⟨hstrict, -, -, hok⟩ := run_touches_own_ranges Link.keepsLimits call (.zeros 12) driver
  obtain ⟨reply, hreply, hcap, -, hbyte⟩ := hok (congrArg Prod.fst run_call)
  exact ⟨Link.keepsLimits, hstrict, reply, hreply, hcap 8 rfl, hbyte⟩

end Overlay
end GuestCall
end GuestNet
