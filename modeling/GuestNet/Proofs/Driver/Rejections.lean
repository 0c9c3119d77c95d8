import GuestNet.Proofs.Connection.Streams
import GuestNet.Proofs.Driver.Effects

/-! Calls that are turned down before a backend or a connection hears of them. Such a call leaves the
driver as it was, so that a run of calls goes on as it would have gone without it. -/
namespace GuestNet.Driver

variable {W C : Type} [Connection C] {d : Driver W C} {c : Call} {e : DriverError}
  {raw options : String}

/-- A call that is turned down before a backend or a connection hears of it, and why. -/
inductive Rejected (d : Driver W C) : Call → DriverError → Prop where
  | notATarget {raw options : String} {e : TargetError} : Target.parse raw = .error e →
      Rejected d (.openTarget raw options) (.badParams e.message)
  | noBackend {raw options : String} {t : Target} : Target.parse raw = .ok t →
      d.setup.registry.find? t.scheme = none →
        Rejected d (.openTarget raw options) (.driverNotFound t.scheme)
  | notPermitted {raw options : String} {t : Target} {b : Backend W C} :
      Target.parse raw = .ok t → d.setup.registry.find? t.scheme = some b →
        d.setup.policy.isPermitted t = false →
          Rejected d (.openTarget raw options) (.permissionDenied t.raw)
  | noRoom {raw options : String} {t : Target} {b : Backend W C} :
      Target.parse raw = .ok t → d.setup.registry.find? t.scheme = some b →
        d.setup.policy.isPermitted t = true → d.table.isFull = true →
          Rejected d (.openTarget raw options) (.tooManyHandles d.table.capacity)
  | notLive {c : Call} {h : Handle} : c.handle? = some h → d.table.get? h = none →
      Rejected d c (.badHandle h)

/-- What a call has to pass before a backend or a connection hears of it. -/
def accept (d : Driver W C) : Call → Except DriverError Unit
  | .openTarget raw _ => (d.setup.backendFor d.table raw).map fun _ => ()
  | .perform h _ => (d.table.lookup h).map fun _ => ()
  | .close h => (d.table.lookup h).map fun _ => ()
  | .closeAll => .ok ()
  | .isOpen _ => .ok ()

omit [Connection C] in
theorem rejected_openTarget_iff : d.Rejected (.openTarget raw options) e ↔
    d.setup.backendFor d.table raw = .error e := by
  constructor
  · intro hr
    cases hr with
    | notATarget ht => rw [Setup.backendFor, ht]
    | noBackend ht hb => simp only [Setup.backendFor, ht, hb]
    | notPermitted ht hb hp => simp [Setup.backendFor, ht, hb, AccessPolicy.check, hp]
    | noRoom ht hb hp hf => simp [Setup.backendFor, ht, hb, AccessPolicy.check, hp, hf]
    | notLive hc => cases hc
  · intro he
    rw [Setup.backendFor] at he
    split at he
    · rename_i ht
      cases he
      exact .notATarget ht
    · rename_i t ht
      split at he
      · rename_i hb
        cases he
        exact .noBackend ht hb
      · rename_i b hb
        cases hp : d.setup.policy.isPermitted t with
        | false =>
          simp only [AccessPolicy.check, hp, Bool.false_eq_true, if_false] at he
          cases he
          exact .notPermitted ht hb hp
        | true =>
          simp only [AccessPolicy.check, hp, if_true] at he
          split at he
          · rename_i hf
            cases he
            exact .noRoom ht hb hp hf
          · cases he

omit [Connection C] in
theorem lookup_eq_error_iff {h : Handle} : (d.table.lookup h).map (fun _ => ()) = .error e ↔
    d.table.get? h = none ∧ e = .badHandle h := by
  cases hg : d.table.get? h with
  | none =>
    rw [HandleTable.lookup_of_get?_none hg]
    simp [Except.map, eq_comm]
  | some s =>
    rw [HandleTable.lookup_of_get? hg]
    simp [Except.map]

omit [Connection C] in
/-- No call is rejected for any other reason. -/
theorem rejected_iff : d.Rejected c e ↔ d.accept c = .error e := by
  have hlive {h : Handle} (hc : c.handle? = some h) :
      d.Rejected c e ↔ d.table.get? h = none ∧ e = .badHandle h := by
    constructor
    · intro hr
      cases hr with
      | notLive hc' hg =>
        cases hc.symm.trans hc'
        exact ⟨hg, rfl⟩
      | _ => cases hc
    · rintro ⟨hg, rfl⟩
      exact .notLive hc hg
  cases c with
  | openTarget raw options =>
    rw [rejected_openTarget_iff, accept]
    cases d.setup.backendFor d.table raw <;> simp [Except.map]
  | perform h op => exact (hlive rfl).trans lookup_eq_error_iff.symm
  | close h => exact (hlive rfl).trans lookup_eq_error_iff.symm
  | closeAll =>
    refine iff_of_false ?_ nofun
    rintro ⟨⟩
    contradiction
  | isOpen h =>
    refine iff_of_false ?_ nofun
    rintro ⟨⟩
    contradiction

theorem call_of_rejected (hr : d.Rejected c e) : call c d = (.error e, d) := by
  cases c with
  | openTarget raw options =>
    rw [call, openTarget, rejected_openTarget_iff.mp hr]
    rfl
  | perform h op =>
    obtain ⟨hg, rfl⟩ := lookup_eq_error_iff.mp (rejected_iff.mp hr)
    rw [call, perform, HandleTable.lookup_of_get?_none hg]
  | close h =>
    obtain ⟨hg, rfl⟩ := lookup_eq_error_iff.mp (rejected_iff.mp hr)
    rw [call, close, HandleTable.release_of_get?_none hg]
    rfl
  | closeAll => cases rejected_iff.mp hr
  | isOpen h => cases rejected_iff.mp hr

/-- What is left of a list where a mask says what stays. Beyond the mask everything stays. -/
def remaining {α : Type} : List Bool → List α → List α
  | true :: keep, x :: xs => x :: remaining keep xs
  | false :: keep, _ :: xs => remaining keep xs
  | [], xs => xs
  | _ :: _, [] => []

theorem remaining_nil {α : Type} (keep : List Bool) : remaining keep ([] : List α) = [] := by
  unfold remaining
  split <;> trivial

/-- A run of calls without some of those that are rejected in it: the others come to the same, and
the driver ends in the same state, whichever of them are left out. -/
theorem run_remaining (d : Driver W C) (calls : List Call) (keep : List Bool)
    (hr : ∀ i c, calls[i]? = some c → keep[i]? = some false →
      ∃ e, (run (calls.take i) d).2.Rejected c e) :
    run (remaining keep calls) d = (remaining keep (run calls d).1, (run calls d).2) := by
  induction calls generalizing keep d with
  | nil => simp only [run, remaining_nil]
  | cons c rest ih =>
    cases keep with
    | nil => rfl
    | cons stays keep =>
      have hrest := ih (call c d).2 keep fun i c' hc hk => hr (i + 1) c' hc hk
      cases stays with
      | true => simp only [remaining, run, hrest]
      | false =>
        obtain ⟨e, he⟩ := hr 0 c rfl rfl
        have hcall := call_of_rejected (d := d) he
        rw [hcall] at hrest
        simp only [remaining, run, hcall, hrest]

namespace Turned

open Scripted

/-- One stream at a time, and only to one target. -/
def driver : Driver Tallies Link :=
  .new ((Config.default.withMaxHandles 1).withAllowedTargets ["mem://a"])
    [({ Script.plain [1, 2, 3, 4] with schemes := ["mem"] } : Script).backend "mem"] []

def calls : List Call :=
  [.openTarget " " "", .perform 1 .status, .openTarget "mem://a" "", .openTarget "mem://b" "",
    .openTarget "mem://a" "", .openTarget "tcp://a" "", .perform 2 .kind, .perform 1 (.read 3),
    .close 1, .perform 1 (.read 3), .close 1, .openTarget "mem://a" ""]

/-- One of the calls that are rejected stays. -/
def keep : List Bool :=
  [false, false, true, false, false, false, false, true, true, false, true, true]

theorem run_remaining_of_calls :
    (run calls driver).1.length = 12 ∧
      (run (remaining keep calls) driver).1 = [.ok (.handle 1), .ok (.bytes [1, 2, 3]),
        .ok .nothing, .error (.badHandle 1), .ok (.handle 2)] ∧
      (run (remaining keep calls) driver).2 = (run calls driver).2 := by
  have hcheck : ∀ i : Fin 12, keep[i] = false →
      ((run (calls.take i) driver).2.accept calls[i]).toOption = none := by
    decide +kernel
  have hrun := run_remaining driver calls keep fun i c hc hk => by
    obtain ⟨hi, rfl⟩ := List.getElem?_eq_some_iff.mp hc
    obtain ⟨_, hk⟩ := List.getElem?_eq_some_iff.mp hk
    have hnone := hcheck ⟨i, hi⟩ hk
    cases ha : (run (calls.take i) driver).2.accept calls[i] with
    | error e => exact ⟨e, rejected_iff.mpr ha⟩
    | ok u => cases (congrArg Except.toOption ha).symm.trans hnone
  refine ⟨by decide +kernel, by decide +kernel, ?_⟩
  rw [hrun]

end Turned
end GuestNet.Driver
