import GuestNet.Proofs.Guest.Events

/-! What a guest reads of a handle is what its connection has to give, each byte once and in its
place, in however many calls it comes and whatever else is called in between. -/
namespace GuestNet

variable {W C : Type} [Connection C] {d : Driver W C} {h : Handle} {s : Slot C} {m : Memory}

theorem Config.one_le_maxTransfer {c : Config} (hc : c.validate = .ok ()) : 1 ≤ c.maxTransfer := by
  unfold validate at hc
  split at hc
  · cases hc
  · split at hc
    · cases hc
    · split at hc
      · cases hc
      · rename_i hn
        exact Nat.one_le_iff_ne_zero.mpr hn

namespace GuestCall

variable {c : GuestCall} {bound : Nat} {left : C → Stream'.Seq UInt8}

/-- A call that fails takes nothing from any connection and closes none. -/
theorem left_of_failed (hC : Connection.KeepsLimits C) (hl : Connection.Streams left)
    (hb : d.table.Bounded bound) (hs : d.table.get? h = some s)
    (hcode : (c.run m d).1 ≠ .success) :
    (c.run m d).2.1 = m ∧ ∃ t, (c.run m d).2.2.table.get? h = some t ∧
      left t.connection = left s.connection := by
  obtain ⟨hm, t, ht, hvisit⟩ := (result_run hC c m d).visit_of_failed hC hb hs hcode
  refine ⟨hm, t, ht, ?_⟩
  have hleft := hvisit.left hl fun hn => absurd hn hcode
  rw [GuestEvent.received_eq_nil fun _ => hcode, Stream'.Seq.ofList_nil, Stream'.Seq.nil_append] at hleft
  exact hleft.symm

/-- A read that is in order asks the connection once, and the guest is told what it gives. -/
theorem run_read (hC : Connection.KeepsLimits C) (hs : d.table.get? h = some s)
    {buffer len out : UInt32} (hv : (GuestCall.read h buffer len out).Valid m) :
    let asked := Connection.read (min len.toNat d.setup.config.maxTransfer) s.connection
    let run := (GuestCall.read h buffer len out).run m d
    run.2.2.table.get? h = some { s with connection := asked.2 } ∧
      (∀ e, asked.1 = .error e → run.1 = e.code) ∧
      ∀ data, asked.1 = .ok data → run.1 = .success ∧ run.2.1.word out = data.length ∧
        ((GuestCall.read h buffer len out).Apart h →
          run.2.1.slice buffer.toNat (buffer.toNat + data.length) = data) := by
  intro asked run
  have hr : Result _ m d run := result_run hC (.read h buffer len out) m d
  have hperform : s.perform d.setup.config.maxTransfer
      (.read (min len.toNat d.setup.config.maxTransfer)) =
        (asked.1.map .bytes, { s with connection := asked.2 }) := by
    rw [Slot.perform, min_assoc, min_self]
  obtain ⟨hget, herror, hok⟩ := hr.asked hs hv rfl
  rw [hperform] at hget herror hok
  refine ⟨hget, ?_, ?_⟩
  · intro e he
    exact herror e (congrArg (Except.map Reply.bytes) he)
  · intro data hdata
    obtain ⟨hcode, hbyte⟩ := hok (.bytes data) (congrArg (Except.map Reply.bytes) hdata)
    have hlen : (delivered (.read h buffer len out) (.bytes data)).length ≤ len.toNat :=
      (hC.read hdata).trans (min_le_left ..)
    refine ⟨hcode, word_of_bytes rfl (Nat.lt_of_le_of_lt hlen len.toNat_lt) hbyte, ?_⟩
    intro ha
    exact slice_of_bytes rfl rfl ((ha rfl).imp_right (Nat.add_le_add_left hlen _).trans) hbyte

end GuestCall

/-- What a guest has received of a handle, call after call, is the front of what its connection had
to give, and the connection has the rest of it. A call that fails takes nothing and closes nothing.
A read that is in order finds in its buffer what the connection has given, and is told how many
bytes that is, or why it is none. Where a read for some bytes is told of none, the connection has
told that no more will come. -/
theorem reads_continue_stream (hC : Connection.KeepsLimits C) {left : C → Stream'.Seq UInt8}
    (hl : Connection.Streams left) (hd : d.Reachable) (hconfig : d.setup.config.validate = .ok ())
    (hs : d.table.get? h = some s) (m : Memory) :
    (∀ steps : List GuestStep,
      (∀ e ∈ GuestStep.trace (GuestStep.held h steps) m d, e.Clear h) →
        ∃ t, (GuestStep.runAll (GuestStep.held h steps) m d).2.2.table.get? h = some t ∧
          left s.connection = (Stream'.Seq.ofList
            ((GuestStep.trace (GuestStep.held h steps) m d).flatMap
              (GuestEvent.received h))).append (left t.connection)) ∧
      (∀ c : GuestCall, (c.run m d).1 ≠ .success → (c.run m d).2.1 = m ∧
        ∃ t, (c.run m d).2.2.table.get? h = some t ∧
          left t.connection = left s.connection) ∧
      ∀ buffer len out : UInt32,
        let asked := Connection.read (min len.toNat d.setup.config.maxTransfer) s.connection
        let run := (GuestCall.read h buffer len out).run m d
        ((GuestCall.read h buffer len out).Valid m →
          run.2.2.table.get? h = some { s with connection := asked.2 } ∧
            (∀ e, asked.1 = .error e → run.1 = e.code) ∧
            ∀ data, asked.1 = .ok data → run.1 = .success ∧ run.2.1.word out = data.length ∧
              ((GuestCall.read h buffer len out).Apart h →
                run.2.1.slice buffer.toNat (buffer.toNat + data.length) = data)) ∧
          (run.1 = .success → 1 ≤ len.toNat → run.2.1.word out = 0 →
            1 ≤ min len.toNat d.setup.config.maxTransfer ∧ asked.1 = .ok []) := by
  obtain ⟨bound, hb⟩ := hd.exists_bounded
  refine ⟨?_, ?_, ?_⟩
  · intro steps he
    obtain ⟨t, ht, hvisits⟩ := GuestStep.visits_held hC hb hs steps m
    exact ⟨t, ht, hvisits.left hl he⟩
  · intro c hcode
    exact GuestCall.left_of_failed hC hl hb hs hcode
  · intro buffer len out asked run
    refine ⟨GuestCall.run_read hC hs, fun hcode hlen hword => ?_⟩
    have hv : (GuestCall.read h buffer len out).Valid m :=
      (GuestCall.result_run hC _ m d).valid hcode
    obtain ⟨-, herror, hok⟩ := GuestCall.run_read hC hs hv
    refine ⟨le_min hlen (Config.one_le_maxTransfer hconfig), ?_⟩
    rcases hasked : asked.1 with e | data
    · exact absurd ((herror e hasked).symm.trans hcode) e.code_ne_success
    · have hnil := (hok data hasked).2.1.symm.trans hword
      rw [List.length_eq_zero_iff.mp hnil]

namespace Sips

open Scripted

/-- Two bytes at a time, and nothing at first where a second read asks. -/
def slow : Script :=
  { Script.plain [1, 2, 3, 4, 5, 6] with readLimit := some 2, readFaults := [none, some .tryAgain] }

def finished : Script := { Script.plain [] with schemes := ["mem"] }

def driver : Driver Tallies Link :=
  (Driver.call (.openTarget "mem://a" "") (Driver.call (.openTarget "a" "")
    (.new .default [slow.backend "slow", finished.backend "finished"] [])).2).2

/-- The buffer of the third read ends outside the memory, and what the fifth would have read comes
with the sixth. -/
def steps : List GuestStep :=
  [⟨id, .read 1 4 8 0⟩, ⟨id, .read 2 4 8 0⟩, ⟨id, .read 1 14 4 0⟩, ⟨id, .status 1 0⟩,
    ⟨id, .read 1 4 8 0⟩, ⟨id, .read 1 4 8 0⟩, ⟨id, .close 1⟩, ⟨id, .read 1 4 8 0⟩]

theorem reads_continue_stream_of_steps :
    driver.Reachable ∧ driver.setup.config.validate = .ok () ∧
      (GuestStep.runAll steps (.zeros 16) driver).1 = [.success, .success, .badParams,
        .unsupported, .tryAgain, .success, .success, .badHandle] ∧
      (∃ s t, driver.table.get? 1 = some s ∧
        (GuestStep.runAll (GuestStep.held 1 steps) (.zeros 16) driver).2.2.table.get? 1 = some t ∧
        Stream'.Seq.ofList s.connection.left =
          (Stream'.Seq.ofList [1, 2, 3, 4]).append (Stream'.Seq.ofList t.connection.left)) ∧
      ∃ s, driver.table.get? 2 = some s ∧
        (Connection.read (min 8 driver.setup.config.maxTransfer) s.connection).1 = .ok [] := by
  have hd : driver.Reachable := .call _ (.call _ (.new ..))
  have hconfig : driver.setup.config.validate = .ok () := by decide +kernel
  obtain ⟨s, hs⟩ := HandleTable.contains_eq_true_iff.mp
    (by decide +kernel : driver.table.contains 1 = true)
  obtain ⟨s', hs'⟩ := HandleTable.contains_eq_true_iff.mp
    (by decide +kernel : driver.table.contains 2 = true)
  obtain ⟨hstream, -, -⟩ :=
    reads_continue_stream Link.keepsLimits Link.streams hd hconfig hs (.zeros 16)
  obtain ⟨-, -, hread⟩ :=
    reads_continue_stream Link.keepsLimits Link.streams hd hconfig hs' (.zeros 16)
  obtain ⟨t, ht, hleft⟩ := hstream steps (GuestStep.clear_of_apart (by decide) (.zeros 16) driver)
  have hreceived : (GuestStep.trace (GuestStep.held 1 steps) (.zeros 16) driver).flatMap
      (GuestEvent.received 1) = [1, 2, 3, 4] := by
    decide +kernel
  rw [hreceived] at hleft
  obtain ⟨-, hend⟩ := (hread 4 8 0).2 (by decide +kernel) (by decide) (by decide +kernel)
  exact ⟨hd, hconfig, by decide +kernel, ⟨s, t, hs, ht, hleft⟩, s', hs', hend⟩

end Sips
end GuestNet
