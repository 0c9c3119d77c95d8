import GuestNet.Proofs.Guest.Events

/-! What a guest writes to a handle. Of every call its connection takes the front of the buffer, as
many bytes as the guest is told, so a guest that writes what is left over again has its bytes taken
each once and in their order. -/
namespace GuestNet

/-- Where a guest puts what is left to be written, and what it does before. -/
structure Attempt where
  others : List GuestStep
  buffer : UInt32
  countOut : UInt32

namespace Attempt

/-- Puts bytes into the buffer, if the memory is large enough. -/
def fill (a : Attempt) (data : Bytes) (m : Memory) : Memory :=
  if m.Holds (a.buffer, .ofNat data.length) then m.overwrite a.buffer.toNat data else m

/-- Writes to a handle what is left. What the guest is told to have moved is left no longer. -/
def write {S : Type} [Host S] (h : Handle) (a : Attempt) (rest : Bytes) (m : Memory) (s : S) :
    Bytes × Memory × S :=
  let call := GuestCall.write h a.buffer (.ofNat rest.length) a.countOut
  let (code, m, s) := call.run (a.fill rest m) s
  (if code = .success then rest.drop (m.word a.countOut) else rest, m, s)

/-- Writes to a handle until nothing is left. -/
def deliver {S : Type} [Host S] (h : Handle) :
    List Attempt → Bytes → Memory → S → Bytes × Memory × S
  | [], rest, m, s => (rest, m, s)
  | a :: later, rest, m, s =>
    if rest = [] then (rest, m, s)
    else
      let (_, m, s) := GuestStep.runAll a.others m s
      let (rest, m, s) := a.write h rest m s
      deliver h later rest m s

end Attempt

variable {W C : Type} [Connection C] {d : Driver W C} {h : Handle} {s : Slot C} {m : Memory}
  {bound : Nat} {taken : C → Bytes}

namespace GuestCall

/-- A call that fails gives nothing to any connection and closes none. -/
theorem taken_of_failed (hC : Connection.KeepsLimits C) (ht : Connection.Accepts taken)
    (hb : d.table.Bounded bound) (hs : d.table.get? h = some s) {c : GuestCall}
    (hcode : (c.run m d).1 ≠ .success) :
    (c.run m d).2.1 = m ∧ ∃ t, (c.run m d).2.2.table.get? h = some t ∧
      taken t.connection = taken s.connection := by
  obtain ⟨hm, t, hget, hvisit⟩ := (result_run hC c m d).visit_of_failed hC hb hs hcode
  refine ⟨hm, t, hget, ?_⟩
  rw [hvisit.taken hC ht, GuestEvent.moved_eq_nil fun _ => hcode, List.append_nil]

/-- A write that is in order offers the front of its buffer to the connection once, and the guest is
told how much of it was taken. -/
theorem run_write (hC : Connection.KeepsLimits C) (hs : d.table.get? h = some s)
    {buffer len out : UInt32} (hv : (GuestCall.write h buffer len out).Valid m) :
    let size := min len.toNat d.setup.config.maxTransfer
    let offered := m.slice buffer.toNat (buffer.toNat + size)
    let asked := Connection.write offered s.connection
    let run := (GuestCall.write h buffer len out).run m d
    offered.length = size ∧
      run.2.2.table.get? h = some { s with connection := asked.2 } ∧
      (∀ e, asked.1 = .error e → run.1 = e.code) ∧
      ∀ n, asked.1 = .ok n → run.1 = .success ∧ run.2.1.word out = n ∧ n ≤ size := by
  intro size offered asked run
  have hr : Result _ m d run := result_run hC (.write h buffer len out) m d
  have hlength : offered.length = size := by
    have hfits : buffer.toNat + len.toNat ≤ m.size :=
      hv.holds_payload rfl
    have hsize : size ≤ len.toNat := min_le_left ..
    rw [Memory.length_slice (Nat.le_add_right ..) (by omega), Nat.add_sub_cancel_left]
  have hperform : s.perform d.setup.config.maxTransfer (.write offered) =
      (asked.1.map .number, { s with connection := asked.2 }) := by
    rw [Slot.perform, List.take_of_length_le (hlength.trans_le (min_le_right ..))]
  obtain ⟨hget, herror, hok⟩ := hr.asked hs hv rfl
  rw [hperform] at hget herror hok
  refine ⟨hlength, hget, ?_, ?_⟩
  · intro e he
    exact herror e (congrArg (Except.map Reply.number) he)
  · intro n hn
    have hle : n ≤ size := (hC.write hn).trans_eq hlength
    obtain ⟨hcode, hbyte⟩ := hok (.number n) (congrArg (Except.map Reply.number) hn)
    have hlt : number (.write h buffer len out) (.number n) < 2 ^ 32 :=
      Nat.lt_of_le_of_lt (hle.trans (min_le_left ..)) len.toNat_lt
    exact ⟨hcode, word_of_bytes rfl hlt hbyte, hle⟩

/-- No write is told of more than it was for, nor of more than the limit. -/
theorem word_le_of_write (hC : Connection.KeepsLimits C) (hs : d.table.get? h = some s)
    {buffer len out : UInt32}
    (hcode : ((GuestCall.write h buffer len out).run m d).1 = .success) :
    ((GuestCall.write h buffer len out).run m d).2.1.word out ≤
      min len.toNat d.setup.config.maxTransfer := by
  have hv := (result_run hC (.write h buffer len out) m d).valid hcode
  obtain ⟨-, -, herror, hok⟩ := run_write hC hs hv
  rcases hasked : (Connection.write (m.slice buffer.toNat
    (buffer.toNat + min len.toNat d.setup.config.maxTransfer)) s.connection).1 with e | n
  · exact absurd ((herror e hasked).symm.trans hcode) e.code_ne_success
  · obtain ⟨-, hword, hle⟩ := hok n hasked
    rw [hword]
    exact hle

end GuestCall

namespace Attempt

theorem slice_fill {a : Attempt} {data : Bytes} (hlen : data.length < 2 ^ 32)
    (hh : (a.fill data m).Holds (a.buffer, .ofNat data.length)) :
    (a.fill data m).slice a.buffer.toNat (a.buffer.toNat + data.length) = data := by
  by_cases hm : m.Holds (a.buffer, .ofNat data.length)
  · have hfill : a.fill data m = m.overwrite a.buffer.toNat data := if_pos hm
    rw [Memory.Holds, UInt32.toNat_ofNat_of_lt' hlen] at hm
    rw [hfill]
    exact Memory.slice_overwrite hm
  · have hfill : a.fill data m = m := if_neg hm
    rw [hfill] at hh
    exact absurd hh hm

theorem bounded_write (hC : Connection.KeepsLimits C) (hb : d.table.Bounded bound) (h : Handle)
    (a : Attempt) (data : Bytes) (m : Memory) :
    (a.write h data m d).2.2.table.Bounded bound :=
  (GuestCall.result_run hC _ (a.fill data m) d).bounded hb

/-- Of a write of what is left the connection takes what is not left then. -/
theorem taken_write (hC : Connection.KeepsLimits C) (ht : Connection.Accepts taken)
    (hb : d.table.Bounded bound) (hs : d.table.get? h = some s) (a : Attempt) {data : Bytes}
    (hlen : data.length < 2 ^ 32) (m : Memory) :
    ∃ t sent, (a.write h data m d).2.2.table.get? h = some t ∧
      data = sent ++ (a.write h data m d).1 ∧
      taken t.connection = taken s.connection ++ sent := by
  have hr := GuestCall.result_run hC
    (.write h a.buffer (.ofNat data.length) a.countOut) (a.fill data m) d
  obtain ⟨t, hget, hvisit⟩ := hr.visit hC hb hs nofun
  refine ⟨t, _, hget, ?_, hvisit.taken hC ht⟩
  rw [write]
  generalize hrun : (GuestCall.write h a.buffer (.ofNat data.length) a.countOut).run
    (a.fill data m) d = run at hr
  dsimp only
  by_cases hcode : run.1 = .success
  · have hword := GuestCall.word_le_of_write hC hs (hrun ▸ hcode)
    rw [hrun, UInt32.toNat_ofNat_of_lt' hlen] at hword
    have hle : run.2.1.word a.countOut ≤ data.length := hword.trans (min_le_left ..)
    have hslice := slice_fill hlen ((hr.valid hcode).holds_payload rfl)
    have hmoved : GuestEvent.moved h ⟨.write h a.buffer (.ofNat data.length) a.countOut,
        a.fill data m, run.1, run.2.1⟩ = data.take (run.2.1.word a.countOut) := by
      rw [← congrArg (List.take (run.2.1.word a.countOut)) hslice, Memory.take_slice,
        min_eq_left (Nat.add_le_add_left hle _)]
      simp [GuestEvent.moved, hcode]
    rw [hmoved, if_pos hcode, List.take_append_drop]
  · rw [GuestEvent.moved_eq_nil fun _ => hcode, if_neg hcode, List.nil_append]

/-- What the connection has taken and what is left are what there was to be written. -/
theorem taken_deliver (hC : Connection.KeepsLimits C) (ht : Connection.Accepts taken)
    (hb : d.table.Bounded bound) (hs : d.table.get? h = some s) {attempts : List Attempt}
    (hn : ∀ a ∈ attempts, ∀ step ∈ a.others, step.call.handle? ≠ some h) {data : Bytes}
    (hlen : data.length < 2 ^ 32) (m : Memory) :
    ∃ t sent, (deliver h attempts data m d).2.2.table.get? h = some t ∧
      data = sent ++ (deliver h attempts data m d).1 ∧
      taken t.connection = taken s.connection ++ sent := by
  induction attempts generalizing data m d s with
  | nil => exact ⟨s, [], hs, rfl, (List.append_nil _).symm⟩
  | cons a later ih =>
    by_cases hdata : data = []
    · rw [deliver, if_pos hdata]
      exact ⟨s, [], hs, rfl, (List.append_nil _).symm⟩
    · have hothers := hn a List.mem_cons_self
      obtain ⟨t, hget, hvisits⟩ := GuestStep.visits_trace (m := m) hC hb hs
        fun step hm hclose => hothers step hm (by rw [hclose]; rfl)
      have htaken := hvisits.taken hC ht
      rw [GuestStep.flatMap_moved_of_ne hothers, List.append_nil] at htaken
      have hrun := GuestStep.bounded_runAll hC hb a.others m
      rw [deliver, if_neg hdata]
      generalize GuestStep.runAll a.others m d = run at hget hrun
      obtain ⟨codes, m, d⟩ := run
      obtain ⟨u, sent, hu, hsent, hwrite⟩ := taken_write hC ht hrun hget a hlen m
      have hwritten := bounded_write hC hrun h a data m
      dsimp only
      generalize a.write h data m d = written at hu hsent hwritten
      obtain ⟨rest, m, d⟩ := written
      have hrest : rest.length < 2 ^ 32 := by
        rw [hsent, List.length_append] at hlen
        exact Nat.lt_of_le_of_lt (Nat.le_add_left ..) hlen
      obtain ⟨v, more, hv, hmore, hlater⟩ :=
        ih hwritten hu (fun a ha => hn a (List.mem_cons_of_mem _ ha)) hrest m
      refine ⟨v, sent ++ more, hv, ?_, ?_⟩
      · rw [List.append_assoc, ← hmore]
        exact hsent
      · rw [hlater, hwrite, htaken, List.append_assoc]

end Attempt

/-- What the connection of a handle has taken is what a guest has moved to it, call after call. A
call that fails moves nothing and closes nothing. A write that is in order offers the front of its
buffer, at most as much as the limit, and the guest is told how much of that was taken, or why
nothing was. So a guest that writes what is left until nothing is, with whatever it asks of other
handles in between, has moved the front of what there was to be written at any time, and all of it
when nothing is left. -/
theorem writes_reassemble (hC : Connection.KeepsLimits C) (ht : Connection.Accepts taken)
    (hd : d.Reachable) (hs : d.table.get? h = some s) (m : Memory) :
    (∀ steps : List GuestStep,
      ∃ t, (GuestStep.runAll (GuestStep.held h steps) m d).2.2.table.get? h = some t ∧
        taken t.connection = taken s.connection ++
          (GuestStep.trace (GuestStep.held h steps) m d).flatMap (GuestEvent.moved h)) ∧
      (∀ c : GuestCall, (c.run m d).1 ≠ .success → (c.run m d).2.1 = m ∧
        ∃ t, (c.run m d).2.2.table.get? h = some t ∧
          taken t.connection = taken s.connection) ∧
      (∀ buffer len out : UInt32,
        let size := min len.toNat d.setup.config.maxTransfer
        let offered := m.slice buffer.toNat (buffer.toNat + size)
        let asked := Connection.write offered s.connection
        let run := (GuestCall.write h buffer len out).run m d
        ((GuestCall.write h buffer len out).Valid m →
          offered.length = size ∧
            run.2.2.table.get? h = some { s with connection := asked.2 } ∧
            (∀ e, asked.1 = .error e → run.1 = e.code) ∧
            ∀ n, asked.1 = .ok n → run.1 = .success ∧ run.2.1.word out = n ∧ n ≤ size) ∧
          (run.1 = .success → run.2.1.word out ≤ size)) ∧
      ∀ (attempts : List Attempt) (data : Bytes), data.length < 2 ^ 32 →
        (∀ a ∈ attempts, ∀ step ∈ a.others, step.call.handle? ≠ some h) →
          ∃ t sent, (Attempt.deliver h attempts data m d).2.2.table.get? h = some t ∧
            data = sent ++ (Attempt.deliver h attempts data m d).1 ∧
            taken t.connection = taken s.connection ++ sent := by
  obtain ⟨bound, hb⟩ := hd.exists_bounded
  refine ⟨?_, ?_, ?_, ?_⟩
  · intro steps
    obtain ⟨t, hget, hvisits⟩ := GuestStep.visits_held hC hb hs steps m
    exact ⟨t, hget, hvisits.taken hC ht⟩
  · intro c hcode
    exact GuestCall.taken_of_failed hC ht hb hs hcode
  · intro buffer len out size offered asked run
    exact ⟨GuestCall.run_write hC hs, GuestCall.word_le_of_write hC hs⟩
  · intro attempts data hlen hn
    exact Attempt.taken_deliver hC ht hb hs hn hlen m

namespace Parcels

open Scripted

/-- Three bytes at a time, and none of the second write nor of the fourth. -/
def slow : Script :=
  { Script.plain [] with
    writeLimit := some 3, writeFaults := [none, some .tryAgain, none, some (.io .brokenPipe)] }

def driver : Driver Tallies Link :=
  (Driver.call (.openTarget "b" "") (Driver.call (.openTarget "a" "")
    (.new { Config.default with maxTransfer := 4 } [slow.backend "slow"] [])).2).2

/-- The buffer of the second attempt ends outside the memory, and the slot of the fourth lies within
its buffer. -/
def attempts : List Attempt :=
  [⟨[], 4, 0⟩, ⟨[⟨id, .write 2 0 8 0⟩], 14, 0⟩, ⟨[⟨id, .status 2 0⟩], 8, 0⟩, ⟨[], 4, 6⟩,
    ⟨[⟨id, .close 2⟩, ⟨id, .write 2 0 4 0⟩], 9, 0⟩, ⟨[], 4, 0⟩, ⟨[], 4, 0⟩]

def parcel : Bytes := [1, 2, 3, 4, 5, 6, 7]

theorem written_driver : (driver.table.get? 1).map (·.connection.written) = some [] := by
  decide +kernel

theorem writes_reassemble_of_attempts :
    driver.Reachable ∧ parcel.length < 2 ^ 32 ∧
      (∀ a ∈ attempts, ∀ step ∈ a.others, step.call.handle? ≠ some 1) ∧
      (∃ t, (Attempt.deliver 1 (attempts.take 4) parcel (.zeros 16) driver).2.2.table.get? 1 =
        some t ∧ t.connection.written = [1, 2, 3, 4, 5, 6]) ∧
      ∃ t, (Attempt.deliver 1 attempts parcel (.zeros 16) driver).2.2.table.get? 1 = some t ∧
        t.connection.written = parcel := by
  have hd : driver.Reachable := .call _ (.call _ (.new ..))
  have hlen : parcel.length < 2 ^ 32 := by decide
  have hn : ∀ a ∈ attempts, ∀ step ∈ a.others, step.call.handle? ≠ some 1 := by
    simp [attempts, GuestCall.handle?]
  obtain ⟨s, hs, hempty⟩ := Option.map_eq_some_iff.mp written_driver
  obtain ⟨-, -, -, hdeliver⟩ :=
    writes_reassemble Link.keepsLimits Link.accepts hd hs (.zeros 16)
  refine ⟨hd, hlen, hn, ?_, ?_⟩
  · obtain ⟨t, sent, hget, hsent, htaken⟩ :=
      hdeliver (attempts.take 4) parcel hlen fun a ha => hn a (List.mem_of_mem_take ha)
    have hrest : (Attempt.deliver 1 (attempts.take 4) parcel (.zeros 16) driver).1 = [7] := by
      decide +kernel
    rw [hrest] at hsent
    have hsix : sent = [1, 2, 3, 4, 5, 6] := List.append_cancel_right hsent.symm
    rw [hempty, hsix] at htaken
    exact ⟨t, hget, htaken⟩
  · obtain ⟨t, sent, hget, hsent, htaken⟩ := hdeliver attempts parcel hlen hn
    have hrest : (Attempt.deliver 1 attempts parcel (.zeros 16) driver).1 = [] := by
      decide +kernel
    rw [hrest, List.append_nil] at hsent
    rw [hempty, ← hsent] at htaken
    exact ⟨t, hget, htaken⟩

end Parcels
end GuestNet
