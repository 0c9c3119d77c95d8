import GuestNet.Proofs.Overlap.Custody
import GuestNet.Proofs.Overlap.Marks

/-! What a step of an overlapping call can be at the cells: which line it changes, which connection
it uses, and which stage the call gets to. `Move` tells where connections are and leaves out what is
in the cells; a shift tells what is in them. -/
namespace GuestNet

/-- What a connection leaves in its slot when it is closed, with whatever outcome. -/
def Slot.closed {C : Type} [Connection C] (s : Slot C) : Slot C :=
  { s with connection := (Connection.close s.connection).2 }

namespace Overlap

namespace Task

/-- The handle that an answer to a late call names. -/
def handle? : Task → Option Handle
  | perform h _ => some h
  | close h => some h
  | closeEach _ => none

/-- What becomes of a call whose turn comes when the connection is gone. -/
def declined {W C : Type} : Task → Stage W C
  | perform h _ => .finished (.error (.badHandle h))
  | close h => .finished (.error (.badHandle h))
  | closeEach rest => .closeNext rest

variable {W C : Type}

@[simp] theorem cell?_declined (task : Task) : (task.declined : Stage W C).cell? = none := by
  cases task with
  | perform | close => rfl
  | closeEach rest => exact Stage.cell?_closeNext rest

@[simp] theorem connection?_declined (task : Task) :
    (task.declined : Stage W C).connection? = none := by
  cases task with
  | perform | close => rfl
  | closeEach rest => exact Stage.connection?_closeNext rest

@[simp] theorem work?_declined (task : Task) : (task.declined : Stage W C).work? = none := by
  cases task with
  | perform | close => rfl
  | closeEach rest => exact Stage.work?_closeNext rest

theorem declined_of_handle? {task : Task} {h : Handle} (hh : task.handle? = some h) :
    (task.declined : Stage W C) = .finished (.error (.badHandle h)) := by
  cases task with
  | perform | close =>
    cases hh
    rfl
  | closeEach => cases hh

end Task

namespace Cell

variable {C : Type}

def enter (id : CallId) (c : Cell C) : Cell C := { c with line := c.line ++ [id] }

def leave (c : Cell C) : Cell C := { c with line := c.line.tail }

end Cell

namespace Machine

variable {W C : Type} {m m' n : Machine W C} {id : CallId} {s s' : Stage W C}

theorem Turn.unique {s₁ s₂ : Stage W C} (h₁ : Turn m m' id s₁) (h₂ : Turn m m' id s₂) : s₁ = s₂ :=
  Option.some.inj (h₁.here.symm.trans h₂.here)

theorem Turn.marks (ht : Turn m m' id s') :
    m.marks m' id = Stage.told id m.cells.size m.calls[id]? s' := by
  rw [Machine.marks, ht.here]
  simp

/-- A call that comes too late goes, and leaves the connection as it is. -/
theorem serve_of_ne_bound (m : Machine W C) (id : CallId) (cell : CellId) {phase : Phase}
    (hp : phase ≠ .bound) (task : Task) :
    m.serve id cell phase task = (m.leave cell).put id task.declined := by
  cases task <;> exact if_neg hp

/-- One cell changes, if there is one, and the others stay as they are. -/
def Changed (m m' : Machine W C) (cell : CellId) (f : Cell C → Cell C) : Prop :=
  ∀ k : CellId, m'.cells[k]? = if k = cell then m.cells[k]?.map f else m.cells[k]?

theorem changed_changeCell (m : Machine W C) (cell : CellId) (f : Cell C → Cell C) :
    m.Changed (m.changeCell cell f) cell f := by
  intro k
  simp only [changeCell, Array.getElem?_modify, eq_comm (a := cell)]

theorem Changed.of_ne {c cell : CellId} {f : Cell C → Cell C} (h : m.Changed m' cell f)
    (hc : c ≠ cell) : m'.cells[c]? = m.cells[c]? := by
  rw [h c, if_neg hc]

theorem Changed.slot?_of_ne {c cell : CellId} {f : Cell C → Cell C} (h : m.Changed m' cell f)
    (hc : c ≠ cell) : m'.slot? c = m.slot? c := by
  rw [slot?, slot?, h.of_ne hc]

theorem Changed.slot?_eq {cell : CellId} {f : Cell C → Cell C} (h : m.Changed m' cell f)
    (hf : ∀ d, (f d).slot = d.slot) :
    m'.slot? = m.slot? := by
  funext k
  rw [slot?, slot?, h k]
  split
  · rw [Option.map_map]
    exact Option.map_congr fun d _ => hf d
  · rfl

theorem Changed.trans {l : Machine W C} {cell : CellId} {f g : Cell C → Cell C}
    (hm : m.Changed n cell f) (hn : n.Changed l cell g) : m.Changed l cell (g ∘ f) := by
  intro k
  rw [hn k, hm k]
  split
  · rw [Option.map_map]
  · rfl

variable [Connection C]

/-- What the cells can see of a call that gets from a stage to another one. -/
inductive Shift (m m' : Machine W C) (id : CallId) : Option (Stage W C) → Stage W C → Prop where
  | away {before : Option (Stage W C)} {s' : Stage W C} : m'.cells = m.cells →
      before.bind Stage.cell? = none → before.bind Stage.connection? = none → s'.cell? = none →
        s'.connection? = none → (∀ h, s'.opened? ≠ some (.ok h)) →
          (∀ o, before = some (.finished o) → s' = .finished o) → Shift m m' id before s'
  | connected {target : Target} {options : String} {backend : Backend W C} {c : C} :
      m'.cells = m.cells → (backend.connect target options m.setup.config m.world).1 = .ok c →
        Shift m m' id (some (.connecting target options backend)) (.connected c)
  | issued {c : C} : m.table.isFull = false → m'.table = m.table.issue m.cells.size →
      m'.cells = m.cells.push ⟨.ofConnection c, .bound, []⟩ →
        Shift m m' id (some (.connected c)) (.finished (.ok (.handle m.table.free)))
  | refused {c : C} : m.table.isFull = true → m'.table = m.table →
      m'.cells = m.cells.push ⟨.ofConnection c, .released, []⟩ →
        Shift m m' id (some (.connected c)) (.finished (.error (.tooManyHandles m.table.capacity)))
  | queued {cell : CellId} {task : Task} : m.Changed m' cell (.enter id) →
      Shift m m' id (some (.found cell task)) (.waiting cell task)
  | begun {cell : CellId} {h : Handle} {op : Operation} : m'.cells = m.cells →
      m.first? cell = some id → m.phase? cell = some .bound →
        Shift m m' id (some (.waiting cell (.perform h op))) (.performing cell op)
  | declined {cell : CellId} {task : Task} : m.first? cell = some id →
      m.phase? cell ≠ some .bound → m.Changed m' cell .leave →
        Shift m m' id (some (.waiting cell task)) task.declined
  | took {cell : CellId} {h : Handle} : m.first? cell = some id → m.phase? cell = some .bound →
      m.Changed m' cell (fun c => { c with phase := .taken }) →
        Shift m m' id (some (.waiting cell (.close h))) (.taken cell h)
  | tookNext {cell : CellId} {rest : List CellId} : m.first? cell = some id →
      m.phase? cell = some .bound → m.Changed m' cell (fun c => { c with phase := .taken }) →
        Shift m m' id (some (.waiting cell (.closeEach rest))) (.closing cell rest)
  | released {cell : CellId} {h : Handle} : m'.cells = m.cells →
      Shift m m' id (some (.taken cell h)) (.closing cell [])
  | abandoned {cell : CellId} {h : Handle} {e : DriverError} :
      m.Changed m' cell (fun c => .leave { c with phase := .released }) →
        Shift m m' id (some (.taken cell h)) (.finished (.error e))
  | performed {cell : CellId} {op : Operation} {slot : Slot C} : m.slot? cell = some slot →
      m.Changed m' cell
        (fun c => .leave { c with slot := (slot.perform m.setup.config.maxTransfer op).2 }) →
        Shift m m' id (some (.performing cell op))
          (.finished (slot.perform m.setup.config.maxTransfer op).1)
  | closed {cell : CellId} {rest : List CellId} {slot : Slot C} : m.slot? cell = some slot →
      m.Changed m' cell (fun c => .leave { c with slot := slot.closed, phase := .released }) →
        Shift m m' id (some (.closing cell rest)) (.closeNext rest)

theorem Shift.begin (m : Machine W C) (call : Call) :
    Shift m (m.begin call) id m.calls[m.calls.size]? (.asked call) := by
  rw [Array.getElem?_size]
  exact .away rfl rfl rfl rfl rfl (by simp [Stage.opened?]) (by simp)

theorem Shift.reorder (m : Machine W C) (id : CallId) {cells cells' : List CellId}
    (hp : cells.Perm cells') :
    Shift m (m.put id (.closeNext cells')) id (some (.closeNext cells)) (.closeNext cells') := by
  refine .away rfl (by simp) (by simp) (by simp) (by simp) (Stage.opened?_closeNext cells') ?_
  intro o ho
  cases cells with
  | nil =>
    rw [← hp.nil_eq]
    exact Option.some.inj ho
  | cons => cases ho

/-- A call takes a step by a shift, and what the driver is set up with stays as it is. -/
def Shifts (m m' : Machine W C) (id : CallId) (s : Stage W C) : Prop :=
  ∃ s', Turn m m' id s' ∧ Shift m m' id (some s) s' ∧ m'.setup = m.setup

theorem shifts_put (hs : m.calls[id]? = some s) (hn : n.calls = m.calls)
    (hset : n.setup = m.setup) (hm : Shift m (n.put id s') id (some s) s') :
    Shifts m (n.put id s') id s :=
  ⟨s', .put hs hn s', hm, hset⟩

theorem shifts_ask {call : Call} (hs : m.calls[id]? = some (.asked call)) :
    Shifts m (m.ask id call) id (.asked call) := by
  have hplain (s' : Stage W C) (hc : s'.cell? = none) (hn : s'.connection? = none)
      (ho : ∀ h, s'.opened? ≠ some (.ok h)) : Shifts m (m.put id s') id (.asked call) :=
    shifts_put hs rfl rfl (.away rfl rfl rfl hc hn ho (by simp))
  cases call with
  | openTarget target options =>
    rw [ask]
    split
    · exact hplain _ rfl rfl (by simp [Stage.opened?])
    · exact hplain _ rfl rfl (by simp [Stage.opened?])
  | perform h op =>
    rw [ask, find]
    split
    · exact hplain _ rfl rfl (by simp [Stage.opened?])
    · exact hplain _ rfl rfl (by simp [Stage.opened?])
  | close h =>
    rw [ask, find]
    split
    · exact hplain _ rfl rfl (by simp [Stage.opened?])
    · exact hplain _ rfl rfl (by simp [Stage.opened?])
  | closeAll =>
    exact shifts_put hs rfl rfl
      (.away rfl rfl rfl (by simp) (by simp) (Stage.opened?_closeNext _) (by simp))
  | isOpen h => exact hplain _ rfl rfl (by simp [Stage.opened?])

theorem shifts_connect {target : Target} {options : String} {backend : Backend W C}
    (hs : m.calls[id]? = some (.connecting target options backend)) :
    Shifts m (m.connect id target options backend) id (.connecting target options backend) := by
  rw [connect]
  split
  · exact shifts_put hs rfl rfl (.away rfl rfl rfl rfl rfl (by simp [Stage.opened?]) (by simp))
  · rename_i hc
    exact shifts_put hs rfl rfl (.connected rfl (by rw [hc]))

theorem shifts_bind {c : C} (hs : m.calls[id]? = some (.connected c)) :
    Shifts m (m.bind id c) id (.connected c) := by
  simp only [bind, HandleTable.allocate]
  cases hf : m.table.isFull with
  | true => exact shifts_put hs rfl rfl (.refused hf rfl rfl)
  | false => exact shifts_put hs rfl rfl (.issued hf rfl rfl)

theorem shifts_serve {cell : CellId} {task : Task} {c : Cell C}
    (hs : m.calls[id]? = some (.waiting cell task)) (hc : m.cells[cell]? = some c)
    (hl : c.line.head? = some id) :
    Shifts m (m.serve id cell c.phase task) id (.waiting cell task) := by
  have hf : m.first? cell = some id := by rw [first?, hc, Option.bind_some, hl]
  have hp : m.phase? cell = some c.phase := by rw [phase?, hc, Option.map_some]
  have hleft : m.Changed (m.leave cell) cell .leave := changed_changeCell m cell _
  have htaken : m.Changed (m.setPhase cell .taken) cell (fun c => { c with phase := .taken }) :=
    changed_changeCell m cell _
  by_cases hb : c.phase = .bound
  · rw [hb] at hp ⊢
    cases task with
    | perform h op => exact shifts_put hs rfl rfl (.begun rfl hf hp)
    | close h => exact shifts_put hs rfl rfl (.took hf hp htaken)
    | closeEach rest => exact shifts_put hs rfl rfl (.tookNext hf hp htaken)
  · rw [serve_of_ne_bound m id cell hb]
    exact shifts_put hs rfl rfl (.declined hf (by simpa [hp] using hb) hleft)

theorem shifts_release {cell : CellId} {h : Handle} (hs : m.calls[id]? = some (.taken cell h)) :
    Shifts m (m.release id cell h) id (.taken cell h) := by
  rw [release]
  split
  · exact shifts_put hs rfl rfl
      (.abandoned ((changed_changeCell m cell _).trans (changed_changeCell _ cell _)))
  · exact shifts_put hs rfl rfl (.released rfl)

theorem shifts_perform {cell : CellId} {op : Operation} {c : Cell C}
    (hs : m.calls[id]? = some (.performing cell op)) (hc : m.cells[cell]? = some c) :
    Shifts m (m.perform id cell c op) id (.performing cell op) :=
  shifts_put hs rfl rfl (.performed (by rw [slot?, hc, Option.map_some])
    ((changed_changeCell m cell _).trans (changed_changeCell _ cell _)))

theorem shifts_close {cell : CellId} {rest : List CellId} {c : Cell C}
    (hs : m.calls[id]? = some (.closing cell rest)) (hc : m.cells[cell]? = some c) :
    Shifts m (m.close id cell c rest) id (.closing cell rest) := by
  have hclosed : m.Changed (m.changeCell cell fun d =>
      { d with slot := { d.slot with connection := c.slot.closed.connection },
               phase := .released }) cell
        (fun d => { d with slot := c.slot.closed, phase := .released }) := by
    intro k
    rw [changed_changeCell m cell _ k]
    split
    · rename_i he
      rw [he, hc]
      rfl
    · rfl
  exact shifts_put hs rfl rfl (.closed (by rw [slot?, hc, Option.map_some])
    (hclosed.trans (changed_changeCell _ cell _)))

/-- Every step is a shift. -/
theorem shifts_step (hs : m.calls[id]? = some s) (h : m.step id = some m') : Shifts m m' id s := by
  rw [step, hs, Option.bind_some] at h
  cases s with
  | asked call =>
    cases h
    exact shifts_ask hs
  | connecting target options backend =>
    cases h
    exact shifts_connect hs
  | connected c =>
    cases h
    exact shifts_bind hs
  | found cell task =>
    cases h
    exact shifts_put hs rfl rfl (.queued (changed_changeCell m cell _))
  | waiting cell task =>
    rw [advance] at h
    split at h
    · cases h
    · rename_i c hc
      split at h
      · rename_i hl
        cases h
        exact shifts_serve hs hc hl
      · cases h
  | performing cell op =>
    obtain ⟨c, hc, rfl⟩ := Option.map_eq_some_iff.mp h
    exact shifts_perform hs hc
  | taken cell h =>
    cases h
    exact shifts_release hs
  | closing cell rest =>
    obtain ⟨c, hc, rfl⟩ := Option.map_eq_some_iff.mp h
    exact shifts_close hs hc
  | finished outcome => cases h

end Machine

variable {W C : Type} [Connection C] {config : Config} {backends : List (Backend W C)} {world : W}
  {trace : List (Mark C)} {m : Machine W C}

theorem Chronicle.custody (h : Chronicle config backends world trace m) :
    ∃ log, Machine.Custody log m := by
  obtain ⟨log, hl⟩ := reachable_iff_logged.mp (reachable_iff_chronicle.mpr ⟨trace, h⟩)
  exact ⟨log, hl.custody⟩

theorem Chronicle.setup (h : Chronicle config backends world trace m) :
    m.setup = .new config backends := by
  induction h with
  | new => rfl
  | begin _ _ ih => exact ih
  | step id _ hs ih =>
    obtain ⟨s, hc, -⟩ := Option.bind_eq_some_iff.mp hs
    obtain ⟨s', -, -, hset⟩ := Machine.shifts_step hc hs
    exact hset.trans ih
  | reorder _ _ _ _ ih => exact ih

/-- What holds at first and is kept by every shift holds after every run. -/
theorem Chronicle.of_shifts {P : List (Mark C) → Machine W C → Prop}
    (new : P [] (.new config backends world))
    (shift : ∀ {trace : List (Mark C)} {m m' : Machine W C} {id : CallId} {s' : Stage W C}
      {es : List Event}, Chronicle config backends world trace m → P trace m →
        Machine.Turn m m' id s' → Machine.Move m m' m.calls[id]? s' es →
          Machine.Shift m m' id m.calls[id]? s' →
            P (trace ++ Stage.told id m.cells.size m.calls[id]? s') m')
    (h : Chronicle config backends world trace m) : P trace m := by
  induction h with
  | new => exact new
  | begin call h ih =>
    have hp := shift h ih (.begin _ call) (.begin _ call) (.begin _ call)
    rw [Array.getElem?_size] at hp
    simpa [Stage.told, Stage.connection?, Stage.work?] using hp
  | @step trace m m' id h hs ih =>
    obtain ⟨s, hc, -⟩ := Option.bind_eq_some_iff.mp hs
    obtain ⟨s', ht, hm⟩ := Machine.exists_move hc hs
    obtain ⟨s₁, ht₁, hsh, -⟩ := Machine.shifts_step hc hs
    cases ht.unique ht₁
    rw [ht.marks]
    exact shift h ih ht (hc ▸ hm) (hc ▸ hsh)
  | @reorder trace m id cells cells' h hc hp ih =>
    have hm := Machine.Move.reorder m id hp
    have hsh := Machine.Shift.reorder m id hp
    rw [← hc] at hm hsh
    have hq := shift h ih (.put hc rfl _) hm hsh
    rw [hc] at hq
    simpa [Stage.told] using hq

/-- Does one act after another, as `play` does, and tells the marks on the way. -/
def rehearse : List Act → List (Mark C) → Machine W C → Option (List (Mark C) × Machine W C)
  | [], trace, m => some (trace, m)
  | .begin call :: acts, trace, m => rehearse acts trace (m.begin call)
  | .step id :: acts, trace, m =>
    (m.step id).bind fun m' => rehearse acts (trace ++ m.marks m' id) m'

theorem Chronicle.rehearse {acts : List Act} {trace' : List (Mark C)} {m' : Machine W C}
    (h : Chronicle config backends world trace m)
    (hp : Overlap.rehearse acts trace m = some (trace', m')) :
    Chronicle config backends world trace' m' := by
  induction acts generalizing trace m with
  | nil =>
    cases hp
    exact h
  | cons act acts ih =>
    cases act with
    | begin call => exact ih (.begin call h) hp
    | step id =>
      obtain ⟨m₁, hs, hp⟩ := Option.bind_eq_some_iff.mp hp
      exact ih (.step id h hs) hp

end Overlap
end GuestNet
