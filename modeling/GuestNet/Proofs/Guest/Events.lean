import GuestNet.Proofs.Connection.Acceptance
import GuestNet.Proofs.Driver.Effects
import GuestNet.Proofs.Guest.Refinement
import Mathlib.Data.List.TakeWhile

/-! What a guest can tell of its calls from their codes and its memory, beside what they do to the
connection of a handle: every call either passes the connection by or is one operation on it, and
the guest finds in its memory what that operation has moved. -/
namespace GuestNet

/-- The slot for the count of a read of a handle does not overlap its buffer. -/
def GuestCall.Apart (h : Handle) : GuestCall → Prop
  | .read k buffer len out =>
    k = h → out.toNat + 4 ≤ buffer.toNat ∨ buffer.toNat + len.toNat ≤ out.toNat
  | _ => True

instance (h : Handle) (c : GuestCall) : Decidable (c.Apart h) :=
  match c with
  | .read k buffer len out => inferInstanceAs (Decidable
      (k = h → out.toNat + 4 ≤ buffer.toNat ∨ buffer.toNat + len.toNat ≤ out.toNat))
  | .openTarget .. | .write .. | .close .. | .status .. | .header .. => isTrue trivial

/-- A guest's call with the memory at the call, the code, and the memory afterwards. -/
structure GuestEvent where
  call : GuestCall
  before : Memory
  code : ResultCode
  after : Memory

namespace GuestEvent

/-- What a read of a handle that succeeds has put into its buffer, as far as the count tells. -/
def received (h : Handle) (e : GuestEvent) : Bytes :=
  match e.call with
  | .read k buffer _ out =>
    if k = h ∧ e.code = .success then
      e.after.slice buffer.toNat (buffer.toNat + e.after.word out)
    else []
  | _ => []

/-- What a write to a handle that succeeds has moved out of its buffer, as far as the count
tells. -/
def moved (h : Handle) (e : GuestEvent) : Bytes :=
  match e.call with
  | .write k buffer _ out =>
    if k = h ∧ e.code = .success then
      e.before.slice buffer.toNat (buffer.toNat + e.after.word out)
    else []
  | _ => []

/-- The count of a read of a handle that succeeds has not taken the place of what was read. -/
def Clear (h : Handle) (e : GuestEvent) : Prop := e.code = .success → e.call.Apart h

variable {h : Handle} {e : GuestEvent}

theorem received_eq_nil (hn : e.call.handle? = some h → e.code ≠ .success) :
    e.received h = [] := by
  rw [received]
  split
  · rename_i k buffer len out hc
    apply if_neg
    rintro ⟨rfl, hcode⟩
    exact hn (by rw [hc]; rfl) hcode
  · rfl

theorem moved_eq_nil (hn : e.call.handle? = some h → e.code ≠ .success) : e.moved h = [] := by
  rw [moved]
  split
  · rename_i k buffer len out hc
    apply if_neg
    rintro ⟨rfl, hcode⟩
    exact hn (by rw [hc]; rfl) hcode
  · rfl

end GuestEvent

namespace GuestStep

/-- The steps of a run as the guest sees them. -/
def trace {S : Type} [Host S] : List GuestStep → Memory → S → List GuestEvent
  | [], _, _ => []
  | step :: rest, m, s =>
    let before := step.prepare m
    let (code, after, s) := step.call.run before s
    ⟨step.call, before, code, after⟩ :: trace rest after s

theorem exists_of_mem_trace {S : Type} [Host S] {steps : List GuestStep} {m : Memory} {s : S}
    {e : GuestEvent} (he : e ∈ trace steps m s) : ∃ step ∈ steps, step.call = e.call := by
  induction steps generalizing m s with
  | nil => cases he
  | cons step rest ih =>
    rcases List.mem_cons.mp he with rfl | he
    · exact ⟨step, List.mem_cons_self, rfl⟩
    · obtain ⟨step', hm, hcall⟩ := ih he
      exact ⟨step', List.mem_cons_of_mem _ hm, hcall⟩

theorem flatMap_moved_of_ne {S : Type} [Host S] {h : Handle} {steps : List GuestStep}
    (hn : ∀ step ∈ steps, step.call.handle? ≠ some h) (m : Memory) (s : S) :
    (trace steps m s).flatMap (GuestEvent.moved h) = [] := by
  apply List.flatMap_eq_nil_iff.mpr
  intro e he
  obtain ⟨step, hm, hcall⟩ := exists_of_mem_trace he
  apply GuestEvent.moved_eq_nil
  intro hh
  rw [← hcall] at hh
  exact absurd hh (hn step hm)

theorem clear_of_apart {S : Type} [Host S] {h : Handle} {steps : List GuestStep}
    (ha : ∀ step ∈ steps, step.call.Apart h) (m : Memory) (s : S) :
    ∀ e ∈ trace steps m s, e.Clear h := by
  intro e he _
  obtain ⟨step, hm, hcall⟩ := exists_of_mem_trace he
  rw [← hcall]
  exact ha step hm

/-- The steps before the one that closes a handle. -/
def held (h : Handle) (steps : List GuestStep) : List GuestStep :=
  steps.takeWhile fun step => step.call ≠ .close h

theorem ne_close_of_mem_held {h : Handle} {steps : List GuestStep} {step : GuestStep}
    (hm : step ∈ held h steps) : step.call ≠ .close h := by
  simpa using List.mem_takeWhile_imp hm

end GuestStep

namespace GuestCall

variable {W C : Type} [Connection C] {d : Driver W C} {c : GuestCall} {m m' : Memory}
  {reply : Reply} {h : Handle} {s : Slot C} {bound : Nat}

/-- What a guest's call comes to: it is turned away and nothing is asked of the driver, or what it
stands for fails, or that succeeds and what came of it is in the memory. -/
inductive Result (c : GuestCall) (m : Memory) (d : Driver W C) :
    ResultCode × Memory × Driver W C → Prop where
  | turnedAway {code : ResultCode} : ¬ (c.Resolves d ∧ c.Valid m) → code ≠ .success →
      Result c m d (code, m, d)
  | failed {e : DriverError} : c.Valid m →
      (Driver.call (c.direct d.setup.config.maxTransfer m) d).1 = .error e →
        Result c m d (e.code, m, (Driver.call (c.direct d.setup.config.maxTransfer m) d).2)
  | done {reply : Reply} {m' : Memory} : c.Valid m →
      (Driver.call (c.direct d.setup.config.maxTransfer m) d).1 = .ok reply →
        (∀ i, m'.byte? i = (c.slotByte? reply i).or ((c.bufferByte? reply i).or (m.byte? i))) →
          Result c m d
            (.success, m', (Driver.call (c.direct d.setup.config.maxTransfer m) d).2)

theorem result_run (hC : Connection.KeepsLimits C) (c : GuestCall) (m : Memory)
    (d : Driver W C) : Result c m d (c.run m d) := by
  by_cases hh : c.Resolves d
  · by_cases hv : c.Valid m
    · rcases run_of_request (Driver.keepsLimits hC) ((checks_request m c hh).ok hv) with
        ⟨e, he, hrun⟩ | ⟨reply, m', hreply, hrun, -, hbyte⟩
      · rw [hrun]
        exact .failed hv he
      · rw [hrun]
        exact .done hv hreply hbyte
    · rw [run_of_invalid hh hv]
      exact .turnedAway (fun hn => hv hn.2) nofun
  · obtain ⟨h, hc, hclosed⟩ : ∃ h ∈ c.handle?, ¬ Host.isOpen d h = true := by
      simpa [Resolves] using hh
    rw [run_of_closed hc (Bool.eq_false_of_not_eq_true hclosed)]
    exact .turnedAway (fun hn => hh hn.1) nofun

/-- The slot holds the number that came back. -/
theorem word_of_bytes {out : UInt32} (ho : c.outSlot? = some out)
    (hn : c.number reply < 2 ^ 32)
    (hbyte : ∀ i, m'.byte? i = (c.slotByte? reply i).or ((c.bufferByte? reply i).or (m.byte? i))) :
    m'.word out = c.number reply := by
  have hw : m'.word out = (UInt32.ofNat (c.number reply)).toNat := by
    apply Memory.word_eq_of_byte?
    intro i hi
    have hlt : i < (Memory.wordBytes (.ofNat (c.number reply))).length := hi
    rw [hbyte, slotByte?, ho, Option.bind_some, Memory.byteAt?_or hlt]
  rw [hw, UInt32.toNat_ofNat_of_lt' hn]

/-- The buffer holds what came back, where the slot does not overlap it. -/
theorem slice_of_bytes {out buffer len : UInt32} (ho : c.outSlot? = some out)
    (hb : c.buffer? = some (buffer, len))
    (ha : out.toNat + 4 ≤ buffer.toNat ∨ buffer.toNat + (c.delivered reply).length ≤ out.toNat)
    (hbyte : ∀ i, m'.byte? i = (c.slotByte? reply i).or ((c.bufferByte? reply i).or (m.byte? i))) :
    m'.slice buffer.toNat (buffer.toNat + (c.delivered reply).length) = c.delivered reply := by
  apply Memory.slice_eq_of_byte?
  intro i hi
  have hslot : c.slotByte? reply (buffer.toNat + i) = none := by
    rw [slotByte?, ho, Option.bind_some]
    apply Memory.byteAt?_eq_none
    have hfour : (Memory.wordBytes (.ofNat (c.number reply))).length = 4 := rfl
    omega
  rw [hbyte, hslot, Option.none_or, bufferByte?, hb, Option.bind_some, Memory.byteAt?_or hi]

theorem ends_direct (hn : c ≠ .close h) (limit : Nat) : ¬ (c.direct limit m).Ends h := by
  rintro (he | he)
  · cases c with
    | close k =>
      cases he
      exact hn rfl
    | _ => cases he
  · cases c <;> cases he

/-- A call that stands for nothing on a handle does not name it. -/
theorem handle?_ne_of_operation? (hn : c ≠ .close h) {limit : Nat}
    (hop : (c.direct limit m).operation? h = none) : c.handle? ≠ some h := by
  rintro hc
  cases c with
  | openTarget => cases hc
  | close k =>
    cases hc
    exact hn rfl
  | read | write | status | header =>
    cases hc
    simp [direct, Call.operation?] at hop

/-- The guest finds in its memory what a read has come back with. -/
theorem received_of_bytes {limit : Nat} {op : Operation}
    (hop : c.direct limit m = .perform h op) (hr : (c.direct limit m).Gives limit reply)
    (hbyte : ∀ i, m'.byte? i = (c.slotByte? reply i).or ((c.bufferByte? reply i).or (m.byte? i)))
    (ha : c.Apart h) :
    (GuestEvent.mk c m .success m').received h = (op.chunk? (some (.ok reply))).getD [] := by
  cases c with
  | read k buffer len out =>
    cases hop
    cases reply with
    | bytes data =>
      have hl : (delivered (.read h buffer len out) (.bytes data)).length ≤ len.toNat :=
        hr.trans ((min_le_left ..).trans (min_le_left ..))
      have hword : m'.word out = data.length :=
        word_of_bytes rfl (Nat.lt_of_le_of_lt hl len.toNat_lt) hbyte
      have hslice : m'.slice buffer.toNat (buffer.toNat + data.length) = data :=
        slice_of_bytes rfl rfl ((ha rfl).imp_right (Nat.add_le_add_left hl _).trans) hbyte
      simp [GuestEvent.received, Operation.chunk?, hword, hslice]
    | _ => cases hr
  | write | status | header =>
    cases hop
    rfl
  | openTarget | close => cases hop

/-- What a write tells to have moved is the front of what the guest had in its memory. -/
theorem moved_of_bytes {limit : Nat} {op : Operation}
    (hop : c.direct limit m = .perform h op) (hr : (c.direct limit m).Gives limit reply)
    (hbyte : ∀ i, m'.byte? i = (c.slotByte? reply i).or ((c.bufferByte? reply i).or (m.byte? i))) :
    (GuestEvent.mk c m .success m').moved h = op.moved (.ok reply) := by
  cases c with
  | write k buffer len out =>
    cases hop
    cases reply with
    | number n =>
      have hn : number (.write h buffer len out) (.number n) ≤ min len.toNat limit :=
        number_le hr rfl
      have hword : m'.word out = n :=
        word_of_bytes rfl (Nat.lt_of_le_of_lt (hn.trans (min_le_left ..)) len.toNat_lt) hbyte
      have hstop : min (buffer.toNat + n) (buffer.toNat + min len.toNat limit) =
          buffer.toNat + n := min_eq_left (Nat.add_le_add_left hn _)
      simp [GuestEvent.moved, Operation.moved, hword, Memory.take_slice, hstop]
    | _ => cases hr
  | read | status | header =>
    cases hop
    rfl
  | openTarget | close => cases hop

/-- What a guest's call does to the connection of a handle, with what the guest is told. -/
inductive Visit (limit : Nat) (h : Handle) (s : Slot C) (e : GuestEvent) : Slot C → Prop where
  | passed : e.received h = [] → e.moved h = [] → Visit limit h s e s
  | asked (op : Operation) :
      (e.Clear h → e.received h = (op.chunk? (some (s.perform limit op).1)).getD []) →
      e.moved h = op.moved (s.perform limit op).1 →
        Visit limit h s e (s.perform limit op).2

namespace Visit

variable {limit : Nat} {e : GuestEvent} {t : Slot C}

theorem left {left : C → Stream'.Seq UInt8} (hl : Connection.Streams left)
    (hv : Visit limit h s e t) (he : e.Clear h) :
    left s.connection =
      (Stream'.Seq.ofList (e.received h)).append (left t.connection) := by
  cases hv with
  | passed hreceived _ => rw [hreceived, Stream'.Seq.ofList_nil, Stream'.Seq.nil_append]
  | asked op hreceived _ =>
    rw [hreceived he]
    exact s.left_perform hl limit op

theorem taken (hC : Connection.KeepsLimits C) {taken : C → Bytes}
    (ht : Connection.Accepts taken) (hv : Visit limit h s e t) :
    taken t.connection = taken s.connection ++ e.moved h := by
  cases hv with
  | passed _ hmoved => rw [hmoved, List.append_nil]
  | asked op _ hmoved => rw [hmoved, s.taken_perform hC ht]

end Visit

namespace Result

variable {r : ResultCode × Memory × Driver W C}

theorem driver (hr : Result c m d r) :
    r.2.2 = d ∨ r.2.2 = (Driver.call (c.direct d.setup.config.maxTransfer m) d).2 := by
  cases hr with
  | turnedAway => exact .inl rfl
  | failed | done => exact .inr rfl

theorem setup (hr : Result c m d r) : r.2.2.setup = d.setup := by
  rcases hr.driver with hd | hd <;> rw [hd]
  exact Driver.setup_call _ d

theorem bounded (hr : Result c m d r) (hb : d.table.Bounded bound) :
    r.2.2.table.Bounded bound := by
  rcases hr.driver with hd | hd <;> rw [hd]
  · exact hb
  · exact Driver.bounded_call hb _

theorem unchanged (hr : Result c m d r) (hcode : r.1 ≠ .success) : r.2.1 = m := by
  cases hr with
  | turnedAway | failed => rfl
  | done => exact absurd rfl hcode

theorem valid (hr : Result c m d r) (hcode : r.1 = .success) : c.Valid m := by
  cases hr with
  | turnedAway _ hn => exact absurd hcode hn
  | failed hv | done hv => exact hv

/-- A handle that is open can be closed. -/
theorem ne_close (hr : Result c m d r) (hs : d.table.get? h = some s)
    (hcode : r.1 ≠ .success) : c ≠ .close h := by
  rintro rfl
  cases hr with
  | turnedAway hn =>
    apply hn
    refine ⟨?_, by simp [valid_iff, outSlot?, buffer?, payload?, texts]⟩
    rintro k ⟨⟩
    exact HandleTable.contains_eq_true_iff.mpr ⟨s, hs⟩
  | failed _ he =>
    simp [direct, Driver.call, Driver.close, HandleTable.release_of_get? hs, Except.map] at he
  | done => exact hcode rfl

/-- A call that does not close a handle is at most one operation on its connection. -/
theorem visit (hC : Connection.KeepsLimits C) (hr : Result c m d r)
    (hb : d.table.Bounded bound) (hs : d.table.get? h = some s) (hn : c ≠ .close h) :
    ∃ s', r.2.2.table.get? h = some s' ∧
      Visit d.setup.config.maxTransfer h s ⟨c, m, r.1, r.2.1⟩ s' := by
  have hget := Driver.get?_call hb hs (ends_direct (m := m) hn d.setup.config.maxTransfer)
  cases hr with
  | turnedAway _ hcode =>
    exact ⟨s, hs, .passed (GuestEvent.received_eq_nil fun _ => hcode)
      (GuestEvent.moved_eq_nil fun _ => hcode)⟩
  | @failed e hv he =>
    have hreceived : GuestEvent.received h ⟨c, m, e.code, m⟩ = [] :=
      GuestEvent.received_eq_nil fun _ => e.code_ne_success
    have hmoved : GuestEvent.moved h ⟨c, m, e.code, m⟩ = [] :=
      GuestEvent.moved_eq_nil fun _ => e.code_ne_success
    refine ⟨_, hget, ?_⟩
    cases hop : (c.direct d.setup.config.maxTransfer m).operation? h with
    | none => exact .passed hreceived hmoved
    | some op =>
      rw [Call.operation?_eq_some_iff.mp hop, Driver.call_perform hs] at he
      refine .asked op (fun _ => ?_) ?_
      · rw [hreceived, he]
        cases op <;> rfl
      · rw [hmoved, he]
        cases op <;> rfl
  | @done reply m' hv hreply hbyte =>
    refine ⟨_, hget, ?_⟩
    cases hop : (c.direct d.setup.config.maxTransfer m).operation? h with
    | none =>
      have hne := handle?_ne_of_operation? hn hop
      exact .passed (GuestEvent.received_eq_nil fun hh => absurd hh hne)
        (GuestEvent.moved_eq_nil fun hh => absurd hh hne)
    | some op =>
      have hdirect := Call.operation?_eq_some_iff.mp hop
      have hgives := Driver.keepsLimits hC d hreply
      rw [hdirect, Driver.call_perform hs] at hreply
      refine .asked op (fun ha => ?_) ?_
      · rw [hreply]
        exact received_of_bytes hdirect hgives hbyte (ha rfl)
      · rw [hreply]
        exact moved_of_bytes hdirect hgives hbyte

/-- A call that fails leaves every connection where it is. -/
theorem visit_of_failed (hC : Connection.KeepsLimits C) (hr : Result c m d r)
    (hb : d.table.Bounded bound) (hs : d.table.get? h = some s) (hcode : r.1 ≠ .success) :
    r.2.1 = m ∧ ∃ s', r.2.2.table.get? h = some s' ∧
      Visit d.setup.config.maxTransfer h s ⟨c, m, r.1, r.2.1⟩ s' :=
  ⟨hr.unchanged hcode, hr.visit hC hb hs (hr.ne_close hs hcode)⟩

/-- A call that is in order and stands for an operation on a handle tells what comes of that. -/
theorem asked (hr : Result c m d r) (hs : d.table.get? h = some s) (hv : c.Valid m)
    {op : Operation} (hop : c.direct d.setup.config.maxTransfer m = .perform h op) :
    r.2.2.table.get? h = some (s.perform d.setup.config.maxTransfer op).2 ∧
      (∀ e, (s.perform d.setup.config.maxTransfer op).1 = .error e → r.1 = e.code) ∧
      ∀ reply, (s.perform d.setup.config.maxTransfer op).1 = .ok reply → r.1 = .success ∧
        ∀ i, r.2.1.byte? i =
          (c.slotByte? reply i).or ((c.bufferByte? reply i).or (m.byte? i)) := by
  have hput : (Driver.call (.perform h op) d).2.table.get? h =
      some (s.perform d.setup.config.maxTransfer op).2 := by
    rw [Driver.call_perform hs, HandleTable.get?_put, Function.update_self]
  cases hr with
  | turnedAway hn =>
    refine absurd ⟨fun k hk => ?_, hv⟩ hn
    have hkh : k = h := by
      cases c <;> cases hop <;> cases hk
      all_goals rfl
    rw [hkh]
    exact HandleTable.contains_eq_true_iff.mpr ⟨s, hs⟩
  | failed _ he =>
    rw [hop] at he ⊢
    rw [Driver.call_perform hs] at he
    refine ⟨hput, ?_, ?_⟩
    · intro e' he'
      cases he.symm.trans he'
      rfl
    · intro reply hreply
      cases he.symm.trans hreply
  | done _ hreply hbyte =>
    rw [hop] at hreply ⊢
    rw [Driver.call_perform hs] at hreply
    refine ⟨hput, ?_, ?_⟩
    · intro e he
      cases hreply.symm.trans he
    · intro reply' hreply'
      cases hreply.symm.trans hreply'
      exact ⟨rfl, hbyte⟩

end Result

/-- What calls one after another do to the connection of a handle. -/
inductive Visits (limit : Nat) (h : Handle) : Slot C → List GuestEvent → Slot C → Prop where
  | nil (s : Slot C) : Visits limit h s [] s
  | cons {s t u : Slot C} {e : GuestEvent} {rest : List GuestEvent} :
      Visit limit h s e t → Visits limit h t rest u → Visits limit h s (e :: rest) u

namespace Visits

variable {limit : Nat} {events : List GuestEvent} {t : Slot C}

/-- What a guest has received of a handle is what its connection has given. -/
theorem left {left : C → Stream'.Seq UInt8} (hl : Connection.Streams left)
    (hv : Visits limit h s events t) (he : ∀ e ∈ events, e.Clear h) :
    left s.connection = (Stream'.Seq.ofList (events.flatMap (GuestEvent.received h))).append
      (left t.connection) := by
  induction hv with
  | nil s => simp
  | @cons s t u e rest hfirst _ ih =>
    have hrest := ih fun e hm => he e (List.mem_cons_of_mem _ hm)
    rw [hfirst.left hl (he e List.mem_cons_self), hrest, List.flatMap_cons,
      Stream'.Seq.ofList_append, Stream'.Seq.append_assoc]

/-- What a guest has moved to a handle is what its connection has taken. -/
theorem taken (hC : Connection.KeepsLimits C) {taken : C → Bytes}
    (ht : Connection.Accepts taken) (hv : Visits limit h s events t) :
    taken t.connection = taken s.connection ++ events.flatMap (GuestEvent.moved h) := by
  induction hv with
  | nil s => simp
  | @cons s t u e rest hfirst _ ih =>
    rw [ih, hfirst.taken hC ht, List.flatMap_cons, List.append_assoc]

end Visits
end GuestCall

namespace GuestStep

variable {W C : Type} [Connection C] {d : Driver W C} {m : Memory} {h : Handle} {s : Slot C}
  {bound : Nat}

theorem bounded_runAll (hC : Connection.KeepsLimits C) (hb : d.table.Bounded bound)
    (steps : List GuestStep) (m : Memory) : (runAll steps m d).2.2.table.Bounded bound := by
  induction steps generalizing m d with
  | nil => exact hb
  | cons step rest ih =>
    apply ih
    exact (GuestCall.result_run hC step.call (step.prepare m) d).bounded hb

/-- The connection of a handle that no step closes is there after the run. -/
theorem visits_trace (hC : Connection.KeepsLimits C) (hb : d.table.Bounded bound)
    (hs : d.table.get? h = some s) {steps : List GuestStep}
    (hn : ∀ step ∈ steps, step.call ≠ .close h) :
    ∃ t, (runAll steps m d).2.2.table.get? h = some t ∧
      GuestCall.Visits d.setup.config.maxTransfer h s (trace steps m d) t := by
  induction steps generalizing m d s with
  | nil => exact ⟨s, hs, .nil s⟩
  | cons step rest ih =>
    have hr := GuestCall.result_run hC step.call (step.prepare m) d
    obtain ⟨t, ht, hvisit⟩ := hr.visit hC hb hs (hn step List.mem_cons_self)
    obtain ⟨u, hu, hvisits⟩ := ih (m := (step.call.run (step.prepare m) d).2.1) (hr.bounded hb) ht
      fun step hm => hn step (List.mem_cons_of_mem _ hm)
    rw [hr.setup] at hvisits
    exact ⟨u, hu, .cons hvisit hvisits⟩

theorem visits_held (hC : Connection.KeepsLimits C) (hb : d.table.Bounded bound)
    (hs : d.table.get? h = some s) (steps : List GuestStep) (m : Memory) :
    ∃ t, (runAll (held h steps) m d).2.2.table.get? h = some t ∧
      GuestCall.Visits d.setup.config.maxTransfer h s (trace (held h steps) m d) t := by
  apply visits_trace hC hb hs
  intro step hm
  exact ne_close_of_mem_held hm

end GuestStep
end GuestNet
