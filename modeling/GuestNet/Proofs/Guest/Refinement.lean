import GuestNet.Proofs.Guest.Requests
import GuestNet.Proofs.HandleTable.Entries
import Mathlib.Data.List.ReduceOption

/-! A guest's calls against the calls on a driver that they stand for. A call that passes the checks
is one call on the driver, with its outcome for a code; any other one is none. So a run of a guest
leaves the driver where the run of those calls would have left it. -/
namespace GuestNet

/-- The code that a guest gets for an outcome. -/
def Outcome.code : Outcome → ResultCode
  | .ok _ => .success
  | .error e => e.code

/-- A host with all the calls that were made to it, the first one first. -/
structure Tapped (S : Type) where
  host : S
  calls : List Call

namespace Tapped

variable {S : Type} [Host S]

instance : Host (Tapped S) where
  maxTransfer t := Host.maxTransfer t.host
  isOpen t := Host.isOpen t.host
  openHandles t := Host.openHandles t.host
  call c t := ((Host.call c t.host).1, ⟨(Host.call c t.host).2, t.calls ++ [c]⟩)

theorem keepsLimits (hS : Host.KeepsLimits S) : Host.KeepsLimits (Tapped S) := by
  intro t call reply hr
  exact hS t.host hr

end Tapped

namespace GuestCall

variable {c : GuestCall} {m : Memory}

section Host

variable {S : Type} [Host S] {s : S}

theorem request_tapped (c : GuestCall) (m : Memory) (t : Tapped S) :
    c.request t m = c.request t.host m := by
  cases c <;> rfl

/-- What is known of the calls has no part in what they do. -/
theorem run_tapped (c : GuestCall) (m : Memory) (t : Tapped S) :
    c.run m t.host = ((c.run m t).1, (c.run m t).2.1, (c.run m t).2.2.host) := by
  rw [run, run, request_tapped]
  cases c.request t.host m with
  | error e => rfl
  | ok call =>
    have hcall : Host.call call t =
        ((Host.call call t.host).1, ⟨(Host.call call t.host).2, t.calls ++ [call]⟩) := rfl
    dsimp only
    rw [hcall]
    rcases Host.call call t.host with ⟨e | reply, s'⟩
    · rfl
    · dsimp only
      rcases c.store m reply with ⟨e | u, m'⟩
      · cases reply <;> rfl
      · rfl

/-- The handle that a call names is open, if it names one. -/
def Resolves (c : GuestCall) (s : S) : Prop := ∀ h ∈ c.handle?, Host.isOpen s h = true

instance (c : GuestCall) (s : S) : Decidable (c.Resolves s) :=
  decidable_of_iff (c.handle?.all (Host.isOpen s) = true) (by
    rw [Resolves]
    cases c.handle? <;> simp)

theorem run_of_invalid (hh : c.Resolves s) (hv : ¬ c.Valid m) :
    c.run m s = (.badParams, m, s) := by
  obtain ⟨e, he, hcode⟩ := (checks_request m c hh).error hv
  rw [run_of_request_error he, hcode]

theorem run_of_valid (hS : Host.KeepsLimits S) (hh : c.Resolves s) (hv : c.Valid m) :
    ∃ m', c.run m s = ((Host.call (c.direct (Host.maxTransfer s) m) s).1.code, m',
      (Host.call (c.direct (Host.maxTransfer s) m) s).2) := by
  rcases run_of_request hS ((checks_request m c hh).ok hv) with
    ⟨e, he, hrun⟩ | ⟨reply, m', hreply, hrun, -⟩
  · refine ⟨m, ?_⟩
    rw [hrun, he]
    rfl
  · refine ⟨m', ?_⟩
    rw [hrun, hreply]
    rfl

end Host

variable {W C : Type} [Connection C] {d : Driver W C}

theorem close_of_closed {h : Handle} (hh : d.isOpen h = false) :
    Driver.call (.close h) d = (.error (.badHandle h), d) := by
  have hn := HandleTable.contains_eq_false_iff.mp hh
  rw [Driver.call, Driver.close, HandleTable.release_of_get?_none hn]
  rfl

theorem run_of_closed {h : Handle} (hc : c.handle? = some h) (hh : d.isOpen h = false) :
    c.run m d = (.badHandle, m, d) := by
  by_cases hclose : c = .close h
  · have hcall : Host.call (.close h) d = (.error (.badHandle h), d) := close_of_closed hh
    rw [hclose, run, request]
    dsimp only [Pure.pure, Except.pure]
    rw [hcall]
    rfl
  · refine run_of_request_error (request_of_closed hc (fun k hk => hclose ?_) hh)
    rw [hk] at hc
    cases hc
    exact hk

/-- A call that passes the checks does to the driver what it stands for; another does nothing. -/
theorem run_driver (hC : Connection.KeepsLimits C) (c : GuestCall) (m : Memory) (d : Driver W C) :
    ((c.Resolves d ∧ c.Valid m) ∧
      ∃ m', c.run m d = ((Driver.call (c.direct d.setup.config.maxTransfer m) d).1.code, m',
        (Driver.call (c.direct d.setup.config.maxTransfer m) d).2)) ∨
      (¬ (c.Resolves d ∧ c.Valid m) ∧ ∃ code, c.run m d = (code, m, d)) := by
  by_cases hh : c.Resolves d
  · by_cases hv : c.Valid m
    · exact .inl ⟨⟨hh, hv⟩, run_of_valid (Driver.keepsLimits hC) hh hv⟩
    · exact .inr ⟨fun hn => hv hn.2, .badParams, run_of_invalid hh hv⟩
  · refine .inr ⟨fun hn => hh hn.1, .badHandle, ?_⟩
    obtain ⟨h, hc, hclosed⟩ : ∃ h ∈ c.handle?, ¬ Host.isOpen d h = true := by
      simpa [Resolves] using hh
    exact run_of_closed hc (Bool.eq_false_of_not_eq_true hclosed)

end GuestCall

/-- What a guest does between two calls to its memory, and the later one of the calls. -/
structure GuestStep where
  prepare : Memory → Memory
  call : GuestCall

namespace GuestStep

/-- Takes steps in their order. -/
def runAll {S : Type} [Host S] : List GuestStep → Memory → S → List ResultCode × Memory × S
  | [], m, s => ([], m, s)
  | step :: rest, m, s =>
    let (code, m, s) := step.call.run (step.prepare m) s
    let (codes, m, s) := runAll rest m s
    (code :: codes, m, s)

variable {W C : Type} [Connection C]

/-- The calls on the driver that the steps stand for, if they stand for any. -/
def directs : List GuestStep → Memory → Driver W C → List (Option Call)
  | [], _, _ => []
  | step :: rest, m, d =>
    let direct :=
      if step.call.Resolves d ∧ step.call.Valid (step.prepare m) then
        some (step.call.direct d.setup.config.maxTransfer (step.prepare m))
      else none
    let (_, m, d) := step.call.run (step.prepare m) d
    direct :: directs rest m d

/-- The codes of the steps that stand for calls. -/
def codes (directs : List (Option Call)) (all : List ResultCode) : List ResultCode :=
  (directs.zip all).filterMap fun x => x.1.map fun _ => x.2

theorem runAll_driver (hC : Connection.KeepsLimits C) (steps : List GuestStep) (m : Memory)
    (d : Driver W C) :
    (runAll steps m d).2.2 = (Driver.run (directs steps m d).reduceOption d).2 ∧
      codes (directs steps m d) (runAll steps m d).1 =
        (Driver.run (directs steps m d).reduceOption d).1.map Outcome.code := by
  induction steps generalizing m d with
  | nil => exact ⟨rfl, rfl⟩
  | cons step rest ih =>
    rcases step.call.run_driver hC (step.prepare m) d with ⟨hp, m', hrun⟩ | ⟨hp, code, hrun⟩
    · obtain ⟨hd, hcodes⟩ := ih m'
        (Driver.call (step.call.direct d.setup.config.maxTransfer (step.prepare m)) d).2
      simp only [runAll, directs, hrun, if_pos hp, List.reduceOption_cons_of_some, Driver.run]
      refine ⟨hd, ?_⟩
      rw [List.map_cons, ← hcodes]
      rfl
    · obtain ⟨hd, hcodes⟩ := ih (step.prepare m) d
      simp only [runAll, directs, hrun, if_neg hp, List.reduceOption_cons_of_none]
      refine ⟨hd, ?_⟩
      rw [← hcodes]
      rfl

end GuestStep

/-- A guest's call on a handle that is not open changes nothing, whatever else is wrong with it. One
with something else wrong calls the driver not even once. Any other one calls it once, as it stands
for, and has the outcome for a code; and so it is with calls one after another. -/
theorem guest_refines_driver {W C : Type} [Connection C] (hC : Connection.KeepsLimits C)
    (c : GuestCall) (m : Memory) (d : Driver W C) (calls : List Call) :
    (∀ h, c.handle? = some h → d.isOpen h = false → c.run m d = (.badHandle, m, d)) ∧
      (c.Resolves d → ¬ c.Valid m →
        c.run m (Tapped.mk d calls) = (.badParams, m, Tapped.mk d calls)) ∧
      (c.Resolves d → c.Valid m →
        ∃ m', c.run m (Tapped.mk d calls) =
          ((Driver.call (c.direct d.setup.config.maxTransfer m) d).1.code, m',
            Tapped.mk (Driver.call (c.direct d.setup.config.maxTransfer m) d).2
              (calls ++ [c.direct d.setup.config.maxTransfer m]))) ∧
      c.run m d = ((c.run m (Tapped.mk d calls)).1, (c.run m (Tapped.mk d calls)).2.1,
        (c.run m (Tapped.mk d calls)).2.2.host) ∧
      ∀ steps : List GuestStep,
        (GuestStep.runAll steps m d).2.2 =
            (Driver.run (GuestStep.directs steps m d).reduceOption d).2 ∧
          GuestStep.codes (GuestStep.directs steps m d) (GuestStep.runAll steps m d).1 =
            (Driver.run (GuestStep.directs steps m d).reduceOption d).1.map Outcome.code := by
  refine ⟨fun h => GuestCall.run_of_closed, ?_, ?_, c.run_tapped m ⟨d, calls⟩, ?_⟩
  · intro hh hv
    exact GuestCall.run_of_invalid hh hv
  · intro hh hv
    have hS : Host.KeepsLimits (Tapped (Driver W C)) := Tapped.keepsLimits (Driver.keepsLimits hC)
    exact GuestCall.run_of_valid hS hh hv
  · intro steps
    exact GuestStep.runAll_driver hC steps m d

namespace Errand

open Scripted

def driver : Driver Tallies Link :=
  ((Driver.new .default [(Script.plain [1, 2, 3]).backend "0"] []).openTarget "a" "").2

/-- The buffer of the write ends outside the memory, and the last handle is not open. -/
def steps : List GuestStep :=
  [⟨id, .read 1 0 2 4⟩, ⟨id, .write 1 14 4 4⟩, ⟨id, .status 1 8⟩, ⟨id, .close 2⟩]

theorem directs_steps : GuestStep.directs steps (.zeros 16) driver =
    [some (.perform 1 (.read 2)), none, some (.perform 1 .status), none] := by
  rfl

theorem guest_refines_driver_of_steps :
    Connection.KeepsLimits Link ∧
      (GuestStep.runAll steps (.zeros 16) driver).2.2 =
        (Driver.run [.perform 1 (.read 2), .perform 1 .status] driver).2 ∧
      (GuestStep.runAll steps (.zeros 16) driver).1 =
        [.success, .badParams, .unsupported, .badHandle] := by
  obtain ⟨-, -, -, -, hrun⟩ :=
    guest_refines_driver Link.keepsLimits (.close 1) (.zeros 16) driver []
  obtain ⟨hd, -⟩ := hrun steps
  rw [directs_steps] at hd
  exact ⟨Link.keepsLimits, hd, rfl⟩

end Errand
end GuestNet
