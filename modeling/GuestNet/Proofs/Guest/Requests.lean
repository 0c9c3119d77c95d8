import GuestNet.Guest
import GuestNet.Proofs.Connection.Limits
import GuestNet.Proofs.Memory.Bytes

/-! What a guest's call means. A call names ranges of memory and perhaps a handle; where they are in
order it stands for one call on the driver, of which the outcome goes back into the memory. -/
namespace GuestNet

/-- A check that gives `a` just if `P` holds, and otherwise fails as one of bad parameters. -/
structure Checks {α : Type} (x : Except DriverError α) (P : Prop) (a : α) : Prop where
  ok : P → x = .ok a
  error : ¬ P → ∃ e, x = .error e ∧ e.code = .badParams

namespace Checks

variable {α β : Type} {x : Except DriverError α} {P Q : Prop} {a : α}

theorem pure (a : α) : Checks (Pure.pure a) True a :=
  ⟨fun _ => rfl, fun h => absurd trivial h⟩

theorem bind {f : α → Except DriverError β} {b : β} (hx : Checks x P a)
    (hf : P → Checks (f a) Q b) : Checks (x >>= f) (P ∧ Q) b where
  ok h := by
    rw [hx.ok h.1]
    exact (hf h.1).ok h.2
  error h := by
    by_cases hp : P
    · rw [hx.ok hp]
      exact (hf hp).error fun hq => h ⟨hp, hq⟩
    · obtain ⟨e, he, hcode⟩ := hx.error hp
      exact ⟨e, by rw [he]; rfl, hcode⟩

theorem map (hx : Checks x P a) (f : α → β) : Checks (x.map f) P (f a) where
  ok hp := by
    rw [hx.ok hp]
    rfl
  error hp := by
    obtain ⟨e, he, hcode⟩ := hx.error hp
    exact ⟨e, by rw [he]; rfl, hcode⟩

theorem congr (hx : Checks x P a) (h : P ↔ Q) : Checks x Q a :=
  ⟨fun hq => hx.ok (h.mpr hq), fun hq => hx.error fun hp => hq (h.mp hp)⟩

end Checks

namespace Memory

variable (m : Memory) (r : UInt32 × UInt32)

def contents : Bytes := m.slice r.1.toNat (r.1.toNat + r.2.toNat)

/-- The text in a range, if there is one. -/
def text : String := (m.contents r).decode?.getD ""

def HoldsText : Prop := m.Holds r ∧ (m.contents r).decode?.isSome = true

theorem checks_range : Checks (range m.size r.1 r.2) (m.Holds r)
    (r.1.toNat, r.1.toNat + r.2.toNat) where
  ok := range_of_holds
  error h := by
    obtain ⟨reason, he⟩ := range_of_not_holds h
    exact ⟨_, he, rfl⟩

theorem checks_read : Checks (m.read r.1 r.2) (m.Holds r) (m.contents r) :=
  (m.checks_range r).map fun r => m.slice r.1 r.2

theorem checks_readText : Checks (m.readText r.1 r.2) (m.HoldsText r) (m.text r) where
  ok h := by
    obtain ⟨t, ht⟩ := Option.isSome_iff_exists.mp h.2
    rw [readText, (m.checks_read r).ok h.1]
    simp [text, ht]
  error h := by
    by_cases hr : m.Holds r
    · have hn : (m.contents r).decode? = none := by
        simpa using fun hs => h ⟨hr, hs⟩
      refine ⟨.badParams "string is not valid UTF-8", ?_, rfl⟩
      rw [readText, (m.checks_read r).ok hr]
      simp [hn]
    · obtain ⟨e, he, hcode⟩ := (m.checks_read r).error hr
      exact ⟨e, by rw [readText, he], hcode⟩

end Memory

namespace GuestCall

/-- The handle that a call names. -/
def handle? : GuestCall → Option Handle
  | openTarget _ _ _ _ _ => none
  | read h _ _ _ => some h
  | write h _ _ _ => some h
  | close h => some h
  | status h _ => some h
  | header h _ _ _ _ _ => some h

/-- The slot for the number that comes back. -/
def outSlot? : GuestCall → Option UInt32
  | openTarget _ _ _ _ out => some out
  | read _ _ _ out => some out
  | write _ _ _ out => some out
  | close _ => none
  | status _ out => some out
  | header _ _ _ _ _ out => some out

/-- The buffer for the bytes that come back. -/
def buffer? : GuestCall → Option (UInt32 × UInt32)
  | read _ buffer len _ => some (buffer, len)
  | header _ _ _ buffer len _ => some (buffer, len)
  | _ => none

/-- The bytes that are to be written. -/
def payload? : GuestCall → Option (UInt32 × UInt32)
  | write _ buffer len _ => some (buffer, len)
  | _ => none

def texts : GuestCall → List (UInt32 × UInt32)
  | openTarget target targetLen options optionsLen _ => [(target, targetLen), (options, optionsLen)]
  | header _ name nameLen _ _ _ => [(name, nameLen)]
  | _ => []

/-- All ranges that a call names. -/
def regions (c : GuestCall) : List (UInt32 × UInt32) :=
  c.outSlot?.toList.map (·, 4) ++ c.buffer?.toList ++ c.payload?.toList ++ c.texts

/-- All ranges lie within the memory, and what is to be text is so. -/
def Valid (m : Memory) (c : GuestCall) : Prop :=
  (∀ r ∈ c.regions, m.Holds r) ∧ ∀ r ∈ c.texts, (m.contents r).decode?.isSome = true

instance (m : Memory) (c : GuestCall) : Decidable (c.Valid m) :=
  @instDecidableAnd _ _ (List.decidableBAll m.Holds c.regions)
    (List.decidableBAll (fun r => (m.contents r).decode?.isSome = true) c.texts)

/-- The call on a driver that a guest's call stands for. -/
def direct (limit : Nat) (m : Memory) : GuestCall → Call
  | openTarget target targetLen options optionsLen _ =>
    .openTarget (m.text (target, targetLen)) (m.text (options, optionsLen))
  | read h _ len _ => .perform h (.read (min len.toNat limit))
  | write h buffer len _ =>
    .perform h (.write (m.slice buffer.toNat (buffer.toNat + min len.toNat limit)))
  | close h => .close h
  | status h _ => .perform h .status
  | header h name nameLen _ _ _ => .perform h (.header (m.text (name, nameLen)))

/-- The most that a call may tell to have moved. -/
def capacity? (limit : Nat) : GuestCall → Option Nat
  | read _ _ len _ => some (min len.toNat limit)
  | write _ _ len _ => some (min len.toNat limit)
  | header _ _ _ _ len _ => some len.toNat
  | _ => none

/-- The bytes that a call puts into its buffer. -/
def delivered : GuestCall → Reply → Bytes
  | read _ _ _ _, .bytes data => data
  | header _ _ _ _ len _, .bytes data => data.take len.toNat
  | _, _ => []

/-- The number that a call puts into its slot. -/
def number (c : GuestCall) : Reply → Nat
  | .handle h => h.toNat
  | .number n => n
  | .bytes data => (c.delivered (.bytes data)).length
  | _ => 0

def slotByte? (c : GuestCall) (reply : Reply) (i : Nat) : Option UInt8 :=
  c.outSlot?.bind fun ptr =>
    Memory.byteAt? ptr.toNat (Memory.wordBytes (.ofNat (c.number reply))) i

def bufferByte? (c : GuestCall) (reply : Reply) (i : Nat) : Option UInt8 :=
  c.buffer?.bind fun r => Memory.byteAt? r.1.toNat (c.delivered reply) i

variable {m : Memory} {c : GuestCall} {reply : Reply} {limit : Nat} {ptr len out : UInt32}

theorem valid_iff : c.Valid m ↔ (∀ out ∈ c.outSlot?, m.Holds (out, 4)) ∧
    (∀ r ∈ c.buffer?, m.Holds r) ∧ (∀ r ∈ c.payload?, m.Holds r) ∧
      ∀ r ∈ c.texts, m.HoldsText r := by
  simp only [Valid, regions, Memory.HoldsText, List.forall_mem_append, List.forall_mem_map,
    Option.mem_toList, Option.mem_def, forall_and, and_assoc]

theorem Valid.holds_outSlot (hv : c.Valid m) (hout : c.outSlot? = some out) : m.Holds (out, 4) :=
  (valid_iff.mp hv).1 out hout

theorem Valid.holds_buffer (hv : c.Valid m) {r : UInt32 × UInt32} (hr : c.buffer? = some r) :
    m.Holds r :=
  (valid_iff.mp hv).2.1 r hr

theorem Valid.holds_payload (hv : c.Valid m) {r : UInt32 × UInt32} (hr : c.payload? = some r) :
    m.Holds r :=
  (valid_iff.mp hv).2.2.1 r hr

theorem checks_checkBuffer (m : Memory) (r : UInt32 × UInt32) :
    Checks (checkBuffer m r.1 r.2) (m.Holds r) () :=
  (m.checks_range r).map fun _ => ()

theorem checks_checkSlot (m : Memory) (out : UInt32) :
    Checks (checkSlot m out) (m.Holds (out, 4)) () :=
  (m.checks_range (out, 4)).map fun _ => ()

section Request

variable {S : Type} [Host S] {s : S}

theorem checkHandle_of_closed {h : Handle} (hh : Host.isOpen s h = false) :
    checkHandle s h = .error (.badHandle h) := by
  rw [checkHandle, hh]
  rfl

theorem checkHandle_bind {α : Type} {h : Handle} (hh : Host.isOpen s h = true)
    (f : Unit → Except DriverError α) : checkHandle s h >>= f = f () := by
  rw [checkHandle, hh]
  rfl

/-- Whatever else is wrong with a call, a handle that is not open comes first. -/
theorem request_of_closed {h : Handle} (hc : c.handle? = some h) (hn : ∀ h, c ≠ .close h)
    (hh : Host.isOpen s h = false) : c.request s m = .error (.badHandle h) := by
  cases c with
  | openTarget => cases hc
  | close h' => exact absurd rfl (hn h')
  | read | write | status | header =>
    cases hc
    rw [request, checkHandle_of_closed hh]
    rfl

/-- A call with a handle that is open, or without one, is checked for its ranges and texts. -/
theorem checks_request (m : Memory) (c : GuestCall)
    (hh : ∀ h, c.handle? = some h → Host.isOpen s h = true) :
    Checks (c.request s m) (c.Valid m) (c.direct (Host.maxTransfer s) m) := by
  cases c with
  | openTarget target targetLen options optionsLen out =>
    refine Checks.congr (P := m.Holds (out, 4) ∧ m.HoldsText (target, targetLen) ∧
      m.HoldsText (options, optionsLen)) ?_ ?_
    · refine (checks_checkSlot m out).bind fun _ => ?_
      refine (m.checks_readText (target, targetLen)).bind fun _ => ?_
      exact (m.checks_readText (options, optionsLen)).map (Call.openTarget _)
    · simp [valid_iff, outSlot?, buffer?, payload?, texts]
  | read h buffer len out =>
    rw [request, checkHandle_bind (hh h rfl)]
    refine Checks.congr (P := m.Holds (out, 4) ∧ m.Holds (buffer, len)) ?_ ?_
    · refine (checks_checkSlot m out).bind fun _ => ?_
      exact (checks_checkBuffer m (buffer, len)).map fun _ => Call.perform h (.read _)
    · simp [valid_iff, outSlot?, buffer?, payload?, texts]
  | write h buffer len out =>
    rw [request, checkHandle_bind (hh h rfl)]
    have hdirect : (GuestCall.write h buffer len out).direct (Host.maxTransfer s) m =
        .perform h (.write ((m.contents (buffer, len)).take (Host.maxTransfer s))) := by
      rw [direct, Memory.contents, Memory.take_slice, Nat.add_min_add_left, min_comm]
    rw [hdirect]
    refine Checks.congr (P := m.Holds (out, 4) ∧ m.Holds (buffer, len)) ?_ ?_
    · refine (checks_checkSlot m out).bind fun _ => ?_
      exact (m.checks_read (buffer, len)).map fun data => Call.perform h (.write (data.take _))
    · simp [valid_iff, outSlot?, buffer?, payload?, texts]
  | close h =>
    refine (Checks.pure (Call.close h)).congr ?_
    simp [valid_iff, outSlot?, buffer?, payload?, texts]
  | status h out =>
    rw [request, checkHandle_bind (hh h rfl)]
    refine Checks.congr (P := m.Holds (out, 4)) ?_ ?_
    · exact (checks_checkSlot m out).map fun _ => Call.perform h .status
    · simp [valid_iff, outSlot?, buffer?, payload?, texts]
  | header h name nameLen buffer len out =>
    rw [request, checkHandle_bind (hh h rfl)]
    refine Checks.congr (P := m.Holds (out, 4) ∧ m.Holds (buffer, len) ∧
      m.HoldsText (name, nameLen)) ?_ ?_
    · refine (checks_checkSlot m out).bind fun _ => ?_
      refine (checks_checkBuffer m (buffer, len)).bind fun _ => ?_
      exact (m.checks_readText (name, nameLen)).map fun name => Call.perform h (.header name)
    · simp [valid_iff, outSlot?, buffer?, payload?, texts]

end Request

theorem storeWord_spec (h : m.Holds (out, 4)) (value : UInt32) :
    ∃ m', storeWord m out value = (.ok (), m') ∧ m'.size = m.size ∧
      ∀ i, m'.byte? i = (Memory.byteAt? out.toNat (Memory.wordBytes value) i).or (m.byte? i) := by
  have hstore : storeWord m out value =
      (.ok (), m.overwrite out.toNat (Memory.wordBytes value)) := by
    rw [storeWord, Memory.writeWord_of_holds h]
  exact ⟨_, hstore, Memory.size_overwrite h, Memory.byte?_overwrite h⟩

/-- Where the slot and the buffer overlap, the number stays. -/
theorem storeBytes_spec (hb : m.Holds (ptr, len)) (hs : m.Holds (out, 4)) {data : Bytes}
    (hl : data.length ≤ len.toNat) :
    ∃ m', storeBytes m ptr out data = (.ok (), m') ∧ m'.size = m.size ∧
      ∀ i, m'.byte? i = (Memory.byteAt? out.toNat (Memory.wordBytes (.ofNat data.length)) i).or
        ((Memory.byteAt? ptr.toNat data i).or (m.byte? i)) := by
  have hfit : ptr.toNat + data.length ≤ m.size := (Nat.add_le_add_left hl _).trans hb
  have hsize := Memory.size_overwrite hfit
  obtain ⟨m', hm', hsize', hbyte⟩ := storeWord_spec (m := m.overwrite ptr.toNat data)
    (by rwa [Memory.Holds, hsize]) (.ofNat data.length)
  refine ⟨m', ?_, hsize'.trans hsize, fun i => ?_⟩
  · rw [storeBytes, Memory.write_of_holds hb hl]
    exact hm'
  · rw [hbyte, Memory.byte?_overwrite hfit]

/-- What comes of the call that a guest's call stands for fits where the guest wants it. -/
theorem store_of_valid (hv : c.Valid m) (hr : (c.direct limit m).Gives limit reply) :
    ∃ m', c.store m reply = (.ok (), m') ∧ m'.size = m.size ∧
      ∀ i, m'.byte? i = (c.slotByte? reply i).or ((c.bufferByte? reply i).or (m.byte? i)) := by
  cases c with
  | openTarget target targetLen options optionsLen out =>
    cases reply with
    | handle h =>
      obtain ⟨m', hm', hsize, hbyte⟩ := storeWord_spec (hv.holds_outSlot rfl) h
      refine ⟨m', hm', hsize, fun i => ?_⟩
      simp [hbyte, slotByte?, outSlot?, number, bufferByte?, buffer?]
    | _ => cases hr
  | read h buffer len out =>
    cases reply with
    | bytes data =>
      have hlen : data.length ≤ len.toNat := hr.trans ((min_le_left ..).trans (min_le_left ..))
      obtain ⟨m', hm', hsize, hbyte⟩ :=
        storeBytes_spec (hv.holds_buffer rfl) (hv.holds_outSlot rfl) hlen
      exact ⟨m', hm', hsize, hbyte⟩
    | _ => cases hr
  | write h buffer len out =>
    cases reply with
    | number n =>
      obtain ⟨m', hm', hsize, hbyte⟩ := storeWord_spec (hv.holds_outSlot rfl) (.ofNat n)
      exact ⟨m', hm', hsize, hbyte⟩
    | _ => cases hr
  | close h =>
    cases reply with
    | nothing => exact ⟨m, rfl, rfl, fun i => rfl⟩
    | _ => cases hr
  | status h out =>
    cases reply with
    | number n =>
      obtain ⟨m', hm', hsize, hbyte⟩ := storeWord_spec (hv.holds_outSlot rfl) (.ofNat n)
      exact ⟨m', hm', hsize, hbyte⟩
    | _ => cases hr
  | header h name nameLen buffer len out =>
    cases reply with
    | bytes data =>
      obtain ⟨m', hm', hsize, hbyte⟩ := storeBytes_spec (hv.holds_buffer rfl)
        (hv.holds_outSlot rfl) (List.length_take_le len.toNat data)
      exact ⟨m', hm', hsize, hbyte⟩
    | _ => cases hr

theorem length_delivered (hr : (c.direct limit m).Gives limit reply) {r : UInt32 × UInt32}
    (hb : c.buffer? = some r) : (c.delivered reply).length = c.number reply := by
  cases c with
  | read | header =>
    cases reply with
    | bytes data => rfl
    | _ => cases hr
  | openTarget | write | close | status => cases hb

theorem number_le (hr : (c.direct limit m).Gives limit reply) {n : Nat}
    (hn : c.capacity? limit = some n) : c.number reply ≤ n := by
  cases c with
  | read h buffer len out =>
    cases hn
    cases reply with
    | bytes data => exact hr.trans (min_le_left ..)
    | _ => cases hr
  | write h buffer len out =>
    cases hn
    cases reply with
    | number n =>
      refine hr.trans ((min_le_left ..).trans ?_)
      simp only [Memory.slice, Array.length_toList, Array.size_extract]
      omega
    | _ => cases hr
  | header h name nameLen buffer len out =>
    cases hn
    cases reply with
    | bytes data => exact List.length_take_le len.toNat data
    | _ => cases hr
  | openTarget | close | status => cases hn

section Run

variable {S : Type} [Host S] {s : S}

/-- Whatever gets past the checks is in order. -/
theorem direct_of_request {call : Call} (hr : c.request s m = .ok call) :
    c.Valid m ∧ call = c.direct (Host.maxTransfer s) m := by
  have hchecked (hh : ∀ h, c.handle? = some h → Host.isOpen s h = true) :
      c.Valid m ∧ call = c.direct (Host.maxTransfer s) m := by
    by_cases hv : c.Valid m
    · exact ⟨hv, Except.ok.inj (hr.symm.trans ((checks_request m c hh).ok hv))⟩
    · obtain ⟨e, he, -⟩ := (checks_request m c hh).error hv
      cases hr.symm.trans he
  by_cases hclose : ∃ h, c = .close h
  · obtain ⟨h, rfl⟩ := hclose
    cases hr
    exact ⟨by simp [valid_iff, outSlot?, buffer?, payload?, texts], rfl⟩
  · refine hchecked fun h hc => ?_
    by_contra hh
    have he : c.request s m = .error (.badHandle h) :=
      request_of_closed hc (fun h hn => hclose ⟨h, hn⟩) (by simpa using hh)
    cases hr.symm.trans he

theorem run_of_request_error {e : DriverError} (hr : c.request s m = .error e) :
    c.run m s = (e.code, m, s) := by
  rw [run, hr]

/-- A call that fails leaves the memory alone, and one that succeeds puts there what came of it, if
that is what the call can have. -/
theorem run_of_gives {call : Call} (hr : c.request s m = .ok call)
    (hg : ∀ {reply : Reply}, (Host.call call s).1 = .ok reply →
      (c.direct (Host.maxTransfer s) m).Gives (Host.maxTransfer s) reply) :
    (∃ e, (Host.call call s).1 = .error e ∧ c.run m s = (e.code, m, (Host.call call s).2)) ∨
      ∃ reply m', (Host.call call s).1 = .ok reply ∧
        c.run m s = (.success, m', (Host.call call s).2) ∧ m'.size = m.size ∧
        ∀ i, m'.byte? i = (c.slotByte? reply i).or ((c.bufferByte? reply i).or (m.byte? i)) := by
  obtain ⟨hv, rfl⟩ := direct_of_request hr
  rw [run, hr]
  dsimp only
  rcases hcall : Host.call (c.direct (Host.maxTransfer s) m) s with ⟨e | reply, s'⟩
  · exact .inl ⟨e, rfl, rfl⟩
  · obtain ⟨m', hm', hsize, hbyte⟩ := store_of_valid hv (hg (by rw [hcall]))
    refine .inr ⟨reply, m', rfl, ?_, hsize, hbyte⟩
    simp only [hm']

theorem run_of_request (hS : Host.KeepsLimits S) {call : Call} (hr : c.request s m = .ok call) :
    (∃ e, (Host.call call s).1 = .error e ∧ c.run m s = (e.code, m, (Host.call call s).2)) ∨
      ∃ reply m', (Host.call call s).1 = .ok reply ∧
        c.run m s = (.success, m', (Host.call call s).2) ∧ m'.size = m.size ∧
        ∀ i, m'.byte? i = (c.slotByte? reply i).or ((c.bufferByte? reply i).or (m.byte? i)) := by
  obtain ⟨-, hcall⟩ := direct_of_request hr
  refine run_of_gives hr fun hreply => ?_
  rw [← hcall]
  exact hS s hreply

end Run
end GuestCall
end GuestNet
