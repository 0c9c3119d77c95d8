import GuestNet.Proofs.Overlap.Openings

/-! A call that runs to its end while no other one moves. What others have begun stays as it is, so
that an open leaves nothing behind unless it succeeds. -/
namespace GuestNet.Overlap

/-- What a backend is asked for. -/
structure Request (W C : Type) where
  backend : Backend W C
  target : Target
  options : String

variable {W C : Type}

/-- What the next step of a call asks for. -/
def Stage.request? : Stage W C → Option (Request W C)
  | connecting target options backend => some ⟨backend, target, options⟩
  | _ => none

namespace Machine

variable {m m' n : Machine W C} {id : CallId} {s : Stage W C} {asked : List (Request W C)}
  {bound : Nat} {raw options : String}

/-- Adds a call that has come to a stage. -/
def add (m : Machine W C) (s : Stage W C) : Machine W C := { m with calls := m.calls.push s }

theorem begin_eq_add (m : Machine W C) (call : Call) : m.begin call = m.add (.asked call) := rfl

@[simp] theorem put_add (m : Machine W C) (s s' : Stage W C) :
    (m.add s).put m.calls.size s' = m.add s' := by
  simp [add, put, Array.setIfInBounds, Array.set_push]

@[simp] theorem setup_add (m : Machine W C) (s : Stage W C) : (m.add s).setup = m.setup := rfl

@[simp] theorem table_add (m : Machine W C) (s : Stage W C) : (m.add s).table = m.table := rfl

@[simp] theorem cells_add (m : Machine W C) (s : Stage W C) : (m.add s).cells = m.cells := rfl

@[simp] theorem world_add (m : Machine W C) (s : Stage W C) : (m.add s).world = m.world := rfl

section Steps

variable [Connection C] {t : Target} {b : Backend W C} {c : C} {e : DriverError} {world : W}

theorem advance_asked_of_error (h : m.setup.backendFor m.table raw = .error e) :
    (m.add (.asked (.openTarget raw options))).advance m.calls.size
      (.asked (.openTarget raw options)) = some (m.add (.finished (.error e))) := by
  simp [advance, ask, h, finish]

theorem advance_asked_of_ok (h : m.setup.backendFor m.table raw = .ok (t, b)) (options : String) :
    (m.add (.asked (.openTarget raw options))).advance m.calls.size
      (.asked (.openTarget raw options)) = some (m.add (.connecting t options b)) := by
  simp [advance, ask, h]

theorem advance_connecting_of_error
    (h : b.connect t options m.setup.config m.world = (.error e, world)) :
    (m.add (.connecting t options b)).advance m.calls.size (.connecting t options b) =
      some ({ m with world := world }.add (.finished (.error e))) := by
  rw [advance, connect, setup_add, world_add, h]
  exact congrArg some (put_add { m with world := world } _ _)

theorem advance_connecting_of_ok
    (h : b.connect t options m.setup.config m.world = (.ok c, world)) :
    (m.add (.connecting t options b)).advance m.calls.size (.connecting t options b) =
      some ({ m with world := world }.add (.connected c)) := by
  rw [advance, connect, setup_add, world_add, h]
  exact congrArg some (put_add { m with world := world } _ _)

theorem advance_connected (hb : m.table.Bounded bound) (hf : m.table.size ≠ bound) :
    (m.add (.connected c)).advance m.calls.size (.connected c) =
      some ({ m with
          table := m.table.issue m.cells.size,
          cells := m.cells.push ⟨.ofConnection c, .bound, []⟩ }.add
        (.finished (.ok (.handle m.table.free)))) := by
  rw [advance, bind, table_add, cells_add, hb.allocate_of_room hf]
  exact congrArg some (put_add { m with
    table := m.table.issue m.cells.size, cells := m.cells.push ⟨.ofConnection c, .bound, []⟩ } _ _)

end Steps

theorem getElem?_add (m : Machine W C) (s : Stage W C) :
    (m.add s).calls[m.calls.size]? = some s := by
  simp [add]

variable [Connection C]

/-- A call goes on to its end while no other one moves, and tells what it asks for on the way. -/
inductive Alone (id : CallId) : Machine W C → List (Request W C) → Machine W C → Prop where
  | finished {m : Machine W C} {o : Outcome} : m.calls[id]? = some (.finished o) → Alone id m [] m
  | step {m m' n : Machine W C} {s : Stage W C} {asked : List (Request W C)} :
      m.calls[id]? = some s → m.step id = some m' → Alone id m' asked n →
        Alone id m (s.request?.toList ++ asked) n

theorem step_of_finished {o : Outcome} (h : m.calls[id]? = some (.finished o)) :
    m.step id = none := by
  rw [step, h]
  rfl

/-- A call that is alone has no choice. -/
theorem Alone.unique (h : m.Alone id asked n) {asked' : List (Request W C)} {n' : Machine W C}
    (h' : m.Alone id asked' n') : asked' = asked ∧ n' = n := by
  induction h generalizing asked' n' with
  | finished hc =>
    cases h' with
    | finished => exact ⟨rfl, rfl⟩
    | step _ hs => cases (step_of_finished hc).symm.trans hs
  | step hc hs _ ih =>
    cases h' with
    | finished hc' => cases (step_of_finished hc').symm.trans hs
    | step hc' hs' ha =>
      cases hc.symm.trans hc'
      cases hs.symm.trans hs'
      obtain ⟨rfl, rfl⟩ := ih ha
      exact ⟨rfl, rfl⟩

theorem Alone.add (hs : (m.add s).advance m.calls.size s = some m')
    (ha : m'.Alone m.calls.size asked n) :
    (m.add s).Alone m.calls.size (s.request?.toList ++ asked) n :=
  .step (getElem?_add m s) (by rw [Machine.step, getElem?_add, Option.bind_some, hs]) ha

theorem alone_finished {o : Outcome} (hi : m.calls.size = id) :
    (m.add (.finished o)).Alone id [] (m.add (.finished o)) :=
  .finished (hi ▸ getElem?_add m _)

/-- What an open comes to that is alone, by what it has come to before a backend is asked. Where it
fails, nothing is changed but what its backend has changed. -/
inductive Opened (config : Config) (options : String) (m : Machine W C) :
    Except DriverError (Target × Backend W C) → List (Request W C) → Machine W C → Prop where
  | refused {e : DriverError} :
      Opened config options m (.error e) [] (m.add (.finished (.error e)))
  | failed {t : Target} {b : Backend W C} {e : DriverError} {world : W} :
      b.connect t options config m.world = (.error e, world) →
        Opened config options m (.ok (t, b)) [⟨b, t, options⟩]
          ({ m with world := world }.add (.finished (.error e)))
  | opened {t : Target} {b : Backend W C} {c : C} {world : W} {h : Handle}
      {table : HandleTable CellId} :
      b.connect t options config m.world = (.ok c, world) → m.table.get? h = none →
        table.get? = Function.update m.table.get? h (some m.cells.size) →
          Opened config options m (.ok (t, b)) [⟨b, t, options⟩]
            ({ m with
                world := world, table := table,
                cells := m.cells.push ⟨.ofConnection c, .bound, []⟩ }.add
              (.finished (.ok (.handle h))))

theorem exists_opened (hb : m.table.Bounded bound) (raw options : String) :
    ∃ asked n, (m.begin (.openTarget raw options)).Alone m.calls.size asked n ∧
      Opened m.setup.config options m (m.setup.backendFor m.table raw) asked n := by
  rw [begin_eq_add]
  cases hr : m.setup.backendFor m.table raw with
  | error e => exact ⟨_, _, .add (advance_asked_of_error hr) (alone_finished rfl), .refused⟩
  | ok p =>
    obtain ⟨t, b⟩ := p
    have hasked := advance_asked_of_ok hr options
    rcases hc : b.connect t options m.setup.config m.world with ⟨e | c, world⟩
    · have hconnecting := advance_connecting_of_error hc
      exact ⟨_, _, .add hasked (.add hconnecting (alone_finished rfl)), .failed hc⟩
    · -- nobody else has moved since the table was found to have room
      obtain ⟨-, -, -, hfull⟩ := Setup.backendFor_eq_ok_iff.mp hr
      have hroom := hb.size_ne hfull
      have hconnecting := advance_connecting_of_ok hc
      have hconnected := advance_connected (m := { m with world := world }) (c := c) hb hroom
      exact ⟨_, _, .add hasked (.add hconnecting (.add hconnected (alone_finished rfl))),
        .opened hc (hb.get?_free hroom) (HandleTable.get?_issue m.table m.cells.size)⟩

end Machine

variable [Connection C] {config : Config} {backends : List (Backend W C)} {world : W}
  {m : Machine W C}

/-- An open that is alone comes to one end only. The first thing that is wanting decides, a backend
is asked just if nothing is, and the table has one entry more or is as it was. -/
theorem open_all_or_nothing (hm : Reachable config backends world m) (raw options : String) :
    ∃ r asked n,
      (∀ r', Screened config backends m.table.size raw r' ↔ r' = r) ∧
      (∀ asked' n', (m.begin (.openTarget raw options)).Alone m.calls.size asked' n' ↔
        asked' = asked ∧ n' = n) ∧
      Machine.Opened config options m r asked n := by
  obtain ⟨trace, h⟩ := reachable_iff_chronicle.mp hm
  have hb := h.openings.bounded
  obtain ⟨asked, n, ha, ho⟩ := Machine.exists_opened hb raw options
  rw [h.setup] at ho
  refine ⟨_, asked, n, fun r' => screened_iff hb.capacity, fun asked' n' => ⟨ha.unique, ?_⟩, ho⟩
  rintro ⟨rfl, rfl⟩
  exact ha

namespace Succession

open Scripted

def backend (name : String) (schemes : List String) : Backend Tallies Link :=
  ({ Script.plain [] with schemes := schemes } : Script).backend name

def registered : List (Backend Tallies Link) :=
  [backend "0" ["tcp"], backend "1" ["mem", "TCP"], backend "2" ["mem"]]

/-- One open is done, and another one waits for its backend. -/
def acts : List Act :=
  [.begin (.openTarget "a" ""), .step 0, .step 0, .step 0, .begin (.openTarget "b" ""), .step 1]

def sizes (r : List (Mark Link) × Machine Tallies Link) : Nat × Nat × Nat :=
  (r.2.table.size, r.2.cells.size, r.2.calls.size)

theorem sizes_rehearse :
    (rehearse acts [] (.new (Config.default.withMaxHandles 2) registered [])).map sizes =
      some (1, 1, 2) := by
  rfl

def target : Target := ⟨"tcp", "c", "TCP://c"⟩

theorem screened_target : Screened (Config.default.withMaxHandles 2) registered 1 " TCP://c "
    (.ok (target, backend "1" ["mem", "TCP"])) := by
  have hlast : LastServing registered (Target.writtenScheme " TCP://c ")
      (backend "1" ["mem", "TCP"]) :=
    ⟨[backend "0" ["tcp"]], [backend "2" ["mem"]], rfl, by decide +kernel, by decide +kernel⟩
  exact .passed (by decide +kernel) hlast (by decide +kernel) (by decide +kernel)

theorem open_all_or_nothing_of_target : ∃ m : Machine Tallies Link,
    Reachable (Config.default.withMaxHandles 2) registered [] m ∧ m.table.size = 1 ∧
      ∃ asked n h,
        (∀ asked' n', (m.begin (.openTarget " TCP://c " "")).Alone 2 asked' n' ↔
          asked' = asked ∧ n' = n) ∧
        asked.map (·.backend.name) = ["1"] ∧ n.calls[2]? = some (.finished (.ok (.handle h))) ∧
        m.table.get? h = none ∧ n.table.get? = Function.update m.table.get? h (some 1) := by
  obtain ⟨⟨trace, m⟩, hp, hv⟩ := Option.map_eq_some_iff.mp sizes_rehearse
  obtain ⟨htable, hv⟩ := Prod.mk.inj hv
  obtain ⟨hcells, hcalls⟩ := Prod.mk.inj hv
  have hm : Reachable (Config.default.withMaxHandles 2) registered [] m :=
    reachable_iff_chronicle.mpr ⟨trace, .rehearse .new hp⟩
  obtain ⟨r, asked, n, hr, ha, ho⟩ := open_all_or_nothing hm " TCP://c " ""
  rw [htable] at hr
  cases (hr _).mp screened_target
  rw [hcalls] at ha
  cases ho with
  | failed hc => cases congrArg Prod.fst hc
  | opened hc hnone hget =>
    refine ⟨m, hm, htable, _, _, _, ha, rfl, ?_, hnone, ?_⟩
    · rw [← hcalls]
      exact Machine.getElem?_add _ _
    · rw [← hcells]
      exact hget

end Succession
end GuestNet.Overlap
