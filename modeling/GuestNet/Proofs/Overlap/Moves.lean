import GuestNet.Proofs.HandleTable.Search
import GuestNet.Proofs.Overlap.Log

/-! What a step of an overlapping call can be, described once by what it moves, and runs with the log
of their events. Whatever the moves keep holds after every run. -/
namespace GuestNet.Overlap
namespace Machine

variable {W C : Type}

/-- All cells stay as they are, but for the lines before them and what is in their slots. -/
structure Kept (m m' : Machine W C) : Prop where
  table : m'.table = m.table
  phase : m'.phase? = m.phase?
  size : m'.cells.size = m.cells.size

/-- One call gets to a stage, and the others stay where they are. -/
structure Turn (m m' : Machine W C) (id : CallId) (s : Stage W C) : Prop where
  here : m'.calls[id]? = some s
  other : ∀ k ≠ id, m'.calls[k]? = m.calls[k]?

/-- What can happen when a call gets from a stage to another one. -/
inductive Move (m m' : Machine W C) : Option (Stage W C) → Stage W C → List Event → Prop where
  | begun (call : Call) : Kept m m' → Move m m' none (.asked call) []
  | idle {s s' : Stage W C} {es : List Event} : Kept m m' → s.holds? = none → s'.holds? = none →
      (s'.wants? = none ∨ s'.wants? = s.wants?) → s'.pending ⊆ s.pending →
        (∀ k ∈ s.pending, k ∉ s'.pending → m.phase? k ≠ some .bound) →
          (∀ e ∈ es, ∃ cell op, e = .performed cell op) → Move m m' (some s) s' es
  | looked {h : Handle} {cell : CellId} : Kept m m' → m.table.get? h = some cell →
      Move m m' (some (.asked (.close h))) (.found cell (.close h)) []
  | drained {cells : List CellId} : (∀ k, k ∈ cells ↔ ∃ h, m.table.get? h = some k) →
      m'.table = m.table.drain.2 → m'.phase? = m.phase? → m'.cells.size = m.cells.size →
        Move m m' (some (.asked .closeAll)) (.closeNext cells) []
  | issued {c : C} : m.table.isFull = false → m'.table = m.table.issue m.cells.size →
      m'.phase? = Function.update m.phase? m.cells.size (some .bound) →
        m'.cells.size = m.cells.size + 1 →
          Move m m' (some (.connected c)) (.finished (.ok (.handle m.table.free)))
            [.issued m.cells.size m.table.free]
  | refused {c : C} {e : DriverError} : m'.table = m.table →
      m'.phase? = Function.update m.phase? m.cells.size (some .released) →
        m'.cells.size = m.cells.size + 1 →
          Move m m' (some (.connected c)) (.finished (.error e)) []
  | took {cell : CellId} {h : Handle} : m.phase? cell = some .bound → m'.table = m.table →
      m'.phase? = Function.update m.phase? cell (some .taken) → m'.cells.size = m.cells.size →
        Move m m' (some (.waiting cell (.close h))) (.taken cell h) []
  | tookNext {cell : CellId} {rest : List CellId} : m.phase? cell = some .bound →
      m'.table = m.table → m'.phase? = Function.update m.phase? cell (some .taken) →
        m'.cells.size = m.cells.size →
          Move m m' (some (.waiting cell (.closeEach rest))) (.closing cell rest) []
  | released {cell found : CellId} {h : Handle} : m.table.get? h = some found →
      m'.table = m.table.drop h → m'.phase? = m.phase? → m'.cells.size = m.cells.size →
        Move m m' (some (.taken cell h)) (.closing cell []) [.released cell h (some found)]
  | abandoned {cell : CellId} {h : Handle} {e : DriverError} : m.table.get? h = none →
      m'.table = m.table →
        m'.phase? = Function.update m.phase? cell ((m.phase? cell).map fun _ => .released) →
          m'.cells.size = m.cells.size →
            Move m m' (some (.taken cell h)) (.finished (.error e)) [.released cell h none]
  | closed {cell : CellId} {rest : List CellId} : m'.table = m.table →
      m'.phase? = Function.update m.phase? cell ((m.phase? cell).map fun _ => .released) →
        m'.cells.size = m.cells.size →
          Move m m' (some (.closing cell rest)) (.closeNext rest) [.closed cell]

variable {m m' n : Machine W C} {id : CallId} {s s' : Stage W C}

theorem Turn.put (hs : m.calls[id]? = some s) (hn : n.calls = m.calls) (s' : Stage W C) :
    Turn m (n.put id s') id s' where
  here := by
    obtain ⟨hlt, -⟩ := Array.getElem?_eq_some_iff.mp hs
    rw [Machine.put, hn, Array.getElem?_setIfInBounds_self_of_lt hlt]
  other k hk := by rw [Machine.put, hn, Array.getElem?_setIfInBounds_ne hk.symm]

theorem Turn.begin (m : Machine W C) (call : Call) :
    Turn m (m.begin call) m.calls.size (.asked call) where
  here := Array.getElem?_push_size
  other k hk := by
    rw [Machine.begin, Array.getElem?_push, if_neg hk]

theorem Kept.trans {l : Machine W C} (hm : Kept m n) (hn : Kept n l) : Kept m l :=
  ⟨hn.table.trans hm.table, hn.phase.trans hm.phase, hn.size.trans hm.size⟩

theorem Kept.put (hk : Kept m n) (id : CallId) (s : Stage W C) : Kept m (n.put id s) :=
  ⟨hk.table, hk.phase, hk.size⟩

theorem Kept.changeCell (m : Machine W C) (cell : CellId) (f : Cell C → Cell C)
    (hf : ∀ c, (f c).phase = c.phase) : Kept m (m.changeCell cell f) :=
  ⟨rfl, phase?_changeCell m cell f hf, Array.size_modify⟩

theorem Kept.leave (m : Machine W C) (cell : CellId) : Kept m (m.leave cell) :=
  .changeCell m cell _ fun _ => rfl

theorem Kept.enter (m : Machine W C) (cell : CellId) : Kept m (m.enter cell id) :=
  .changeCell m cell _ fun _ => rfl

theorem Move.begin (m : Machine W C) (call : Call) :
    Move m (m.begin call) m.calls[m.calls.size]? (.asked call) [] := by
  rw [Array.getElem?_size]
  exact .begun call ⟨rfl, rfl, rfl⟩

/-- A call that neither has nor gets anything. -/
theorem Move.plain (hk : Kept m m') (hs : s.holds? = none) (hp : s.pending = [])
    (hs' : s'.holds? = none) (hw' : s'.wants? = none) (hp' : s'.pending = []) :
    Move m m' (some s) s' [] :=
  .idle hk hs hs' (.inl hw') (by simp [hp']) (by simp [hp]) (by simp)

/-- To close connections in another order is a move that is not told of. -/
theorem Move.reorder {cells cells' : List CellId} (m : Machine W C) (id : CallId)
    (hp : cells.Perm cells') :
    Move m (m.put id (.closeNext cells')) (some (.closeNext cells)) (.closeNext cells') [] :=
  .idle (.put ⟨rfl, rfl, rfl⟩ id _) (by simp) (by simp) (.inl (by simp))
    (by simpa using hp.symm.subset)
    (by simpa using fun k hk hn => absurd (hp.subset hk) hn) (by simp)

theorem exists_move_put {es : List Event} (hs : m.calls[id]? = some s) (hn : n.calls = m.calls)
    (hm : Move m (n.put id s') (some s) s' es) :
    ∃ s₁, Turn m (n.put id s') id s₁ ∧ Move m (n.put id s') (some s) s₁ es :=
  ⟨s', .put hs hn s', hm⟩

theorem exists_move_ask {call : Call} (hs : m.calls[id]? = some (.asked call)) :
    ∃ s', Turn m (m.ask id call) id s' ∧ Move m (m.ask id call) (some (.asked call)) s' [] := by
  have hkept (s : Stage W C) : Kept m (m.put id s) := .put ⟨rfl, rfl, rfl⟩ id s
  cases call with
  | openTarget target options =>
    rw [ask]
    split
    · exact exists_move_put hs rfl (.plain (hkept _) rfl rfl rfl rfl rfl)
    · exact exists_move_put hs rfl (.plain (hkept _) rfl rfl rfl rfl rfl)
  | perform h op =>
    rw [ask, find]
    split
    · exact exists_move_put hs rfl (.plain (hkept _) rfl rfl rfl rfl rfl)
    · exact exists_move_put hs rfl (.plain (hkept _) rfl rfl rfl rfl rfl)
  | close h =>
    rw [ask, find]
    split
    · exact exists_move_put hs rfl (.plain (hkept _) rfl rfl rfl rfl rfl)
    · rename_i cell hl
      exact exists_move_put hs rfl (.looked (hkept _) (HandleTable.lookup_eq_ok_iff.mp hl))
  | closeAll =>
    refine exists_move_put hs rfl (.drained (fun k => ?_) rfl rfl rfl)
    rw [List.mem_map]
    constructor
    · rintro ⟨⟨h, c⟩, hm, rfl⟩
      exact ⟨h, HandleTable.mem_drain_iff.mp hm⟩
    · rintro ⟨h, hg⟩
      exact ⟨(h, k), HandleTable.mem_drain_iff.mpr hg, rfl⟩
  | isOpen h => exact exists_move_put hs rfl (.plain (hkept _) rfl rfl rfl rfl rfl)

theorem exists_move_connect {target : Target} {options : String} {backend : Backend W C}
    (hs : m.calls[id]? = some (.connecting target options backend)) :
    ∃ s', Turn m (m.connect id target options backend) id s' ∧
      Move m (m.connect id target options backend) (some (.connecting target options backend))
        s' [] := by
  have hkept (world : W) : Kept m { m with world := world } := ⟨rfl, rfl, rfl⟩
  rw [connect]
  split
  · exact exists_move_put hs rfl (.plain ((hkept _).put id _) rfl rfl rfl rfl rfl)
  · exact exists_move_put hs rfl (.plain ((hkept _).put id _) rfl rfl rfl rfl rfl)

/-- The connection is taken out of its cell by the first call there that is to close it. -/
theorem exists_move_serve {cell : CellId} {task : Task} {phase : Phase}
    (hs : m.calls[id]? = some (.waiting cell task)) (hp : m.phase? cell = some phase) :
    ∃ s', Turn m (m.serve id cell phase task) id s' ∧
      Move m (m.serve id cell phase task) (some (.waiting cell task)) s' [] := by
  cases task with
  | perform h op =>
    rw [serve]
    split
    · exact exists_move_put hs rfl (.plain (.put ⟨rfl, rfl, rfl⟩ id _) rfl rfl rfl rfl rfl)
    · exact exists_move_put hs rfl (.plain (.put (.leave m cell) id _) rfl rfl rfl rfl rfl)
  | close h =>
    rw [serve]
    split
    · rename_i he
      subst he
      have hp' := phase?_setPhase m cell .taken
      rw [hp] at hp'
      exact exists_move_put hs rfl (.took hp rfl hp' Array.size_modify)
    · exact exists_move_put hs rfl (.idle (.put (.leave m cell) id _) rfl rfl (.inl rfl)
        (List.nil_subset _) (by simp [Stage.pending]) (by simp))
  | closeEach rest =>
    rw [serve]
    split
    · rename_i he
      subst he
      have hp' := phase?_setPhase m cell .taken
      rw [hp] at hp'
      exact exists_move_put hs rfl (.tookNext hp rfl hp' Array.size_modify)
    · rename_i hne
      refine exists_move_put hs rfl (.idle (.put (.leave m cell) id _) rfl (by simp) (.inl (by simp))
        ?_ ?_ (by simp))
      · rw [Stage.pending_closeNext]
        exact List.subset_cons_self cell rest
      · intro k hk hn
        rw [Stage.pending_closeNext] at hn
        rcases List.mem_cons.mp hk with rfl | hk
        · simpa [hp] using hne
        · exact absurd hk hn

theorem exists_move_release {cell : CellId} {h : Handle}
    (hs : m.calls[id]? = some (.taken cell h)) :
    ∃ s', Turn m (m.release id cell h) id s' ∧
      Move m (m.release id cell h) (some (.taken cell h)) s'
        [.released cell h (m.table.get? h)] := by
  rw [release]
  cases hg : m.table.get? h with
  | none =>
    rw [HandleTable.release_of_get?_none hg]
    refine exists_move_put hs rfl (.abandoned hg rfl ?_ ?_)
    · exact (phase?_leave _ cell).trans (phase?_setPhase m cell .released)
    · exact (Kept.leave (m.setPhase cell .released) cell).size.trans Array.size_modify
  | some found =>
    rw [HandleTable.release_of_get? hg]
    exact exists_move_put hs rfl (.released hg rfl rfl rfl)

variable [Connection C]

theorem exists_move_bind {c : C} (hs : m.calls[id]? = some (.connected c)) :
    ∃ s', Turn m (m.bind id c) id s' ∧
      Move m (m.bind id c) (some (.connected c)) s' (m.event? id).toList := by
  simp only [event?, hs, Option.bind_some, bind, HandleTable.allocate]
  cases hf : m.table.isFull with
  | true => exact exists_move_put hs rfl (.refused rfl (phase?_push m _) (Array.size_push _))
  | false => exact exists_move_put hs rfl (.issued hf rfl (phase?_push m _) (Array.size_push _))

theorem exists_move_perform {cell : CellId} {op : Operation} (c : Cell C)
    (hs : m.calls[id]? = some (.performing cell op)) :
    ∃ s', Turn m (m.perform id cell c op) id s' ∧
      Move m (m.perform id cell c op) (some (.performing cell op)) s' [.performed cell op] := by
  have hkept (slot : Slot C) :
      Kept m ((m.changeCell cell fun d => { d with slot := slot }).leave cell) :=
    (Kept.changeCell m cell (fun d => { d with slot := slot }) fun _ => rfl).trans (.leave _ cell)
  exact exists_move_put hs rfl (.idle (.put (hkept _) id _) rfl rfl (.inl rfl) (List.nil_subset _)
    (by simp [Stage.pending]) (by simp))

theorem exists_move_close {cell : CellId} {rest : List CellId} (c : Cell C)
    (hs : m.calls[id]? = some (.closing cell rest)) :
    ∃ s', Turn m (m.close id cell c rest) id s' ∧
      Move m (m.close id cell c rest) (some (.closing cell rest)) s' [.closed cell] := by
  refine exists_move_put hs rfl (.closed rfl ?_ ?_)
  · exact (phase?_leave _ cell).trans (phase?_changeCell_of_eq m cell _ fun _ => rfl)
  · exact (Kept.leave (m.changeCell cell _) cell).size.trans Array.size_modify

/-- Every step is a move, and is told as the event that was to come. -/
theorem exists_move (hs : m.calls[id]? = some s) (h : m.step id = some m') :
    ∃ s', Turn m m' id s' ∧ Move m m' (some s) s' (m.event? id).toList := by
  rw [step, hs, Option.bind_some] at h
  cases s with
  | asked call =>
    cases h
    simpa [event?, hs] using exists_move_ask hs
  | connecting target options backend =>
    cases h
    simpa [event?, hs] using exists_move_connect hs
  | connected c =>
    cases h
    exact exists_move_bind hs
  | found cell task =>
    cases h
    simp only [event?, hs, Option.bind_some, Option.toList_none]
    refine exists_move_put hs rfl
      (.idle (.put (.enter m cell) id _) rfl rfl (.inr ?_) ?_ ?_ (by simp))
    · cases task <;> rfl
    · cases task <;> exact List.Subset.refl _
    · cases task <;> exact fun k hk hn => absurd hk hn
  | waiting cell task =>
    rw [advance] at h
    split at h
    · cases h
    · rename_i c hc
      split at h
      · cases h
        simpa [event?, hs] using exists_move_serve hs (by simp [phase?, hc])
      · cases h
  | performing cell op =>
    obtain ⟨c, -, rfl⟩ := Option.map_eq_some_iff.mp h
    simpa [event?, hs] using exists_move_perform c hs
  | taken cell h =>
    cases h
    simpa [event?, hs] using exists_move_release hs
  | closing cell rest =>
    obtain ⟨c, -, rfl⟩ := Option.map_eq_some_iff.mp h
    simpa [event?, hs] using exists_move_close c hs
  | finished outcome => cases h

end Machine

variable {W C : Type} [Connection C]

/-- What can come of a driver without calls, as in `Reachable`, with the events on the way. -/
inductive Logged (config : Config) (backends : List (Backend W C)) (world : W) :
    List Event → Machine W C → Prop where
  | new : Logged config backends world [] (.new config backends world)
  | begin {log : List Event} {m : Machine W C} (call : Call) :
      Logged config backends world log m → Logged config backends world log (m.begin call)
  | step {log : List Event} {m m' : Machine W C} (id : CallId) :
      Logged config backends world log m → m.step id = some m' →
        Logged config backends world (log ++ (m.event? id).toList) m'
  | reorder {log : List Event} {m : Machine W C} (id : CallId) {cells cells' : List CellId} :
      Logged config backends world log m → m.calls[id]? = some (.closeNext cells) →
        cells.Perm cells' → Logged config backends world log (m.put id (.closeNext cells'))

variable {config : Config} {backends : List (Backend W C)} {world : W} {m : Machine W C}

theorem reachable_iff_logged :
    Reachable config backends world m ↔ ∃ log, Logged config backends world log m := by
  constructor
  · intro h
    induction h with
    | new => exact ⟨[], .new⟩
    | begin call _ ih =>
      obtain ⟨log, hl⟩ := ih
      exact ⟨log, .begin call hl⟩
    | step id _ hs ih =>
      obtain ⟨log, hl⟩ := ih
      exact ⟨_, .step id hl hs⟩
    | reorder id _ hc hp ih =>
      obtain ⟨log, hl⟩ := ih
      exact ⟨log, .reorder id hl hc hp⟩
  · rintro ⟨log, h⟩
    induction h with
    | new => exact .new
    | begin call _ ih => exact .begin call ih
    | step id _ hs ih => exact .step id ih hs
    | reorder id _ hc hp ih => exact .reorder id ih hc hp

/-- What holds at first and is kept by every move holds after every run. -/
theorem Logged.of_moves {P : List Event → Machine W C → Prop}
    (new : P [] (.new config backends world))
    (move : ∀ {log : List Event} {m m' : Machine W C} {id : CallId} {s' : Stage W C}
      {es : List Event}, Logged config backends world log m → P log m → Machine.Turn m m' id s' →
        Machine.Move m m' m.calls[id]? s' es → P (log ++ es) m')
    {log : List Event} (h : Logged config backends world log m) : P log m := by
  induction h with
  | new => exact new
  | begin call h ih => simpa using move h ih (.begin _ call) (.begin _ call)
  | @step log m m' id h hs ih =>
    obtain ⟨s, hc, -⟩ := Option.bind_eq_some_iff.mp hs
    obtain ⟨s', ht, hm⟩ := Machine.exists_move hc hs
    exact move h ih ht (hc ▸ hm)
  | @reorder log m id cells cells' h hc hp ih =>
    have hm := Machine.Move.reorder m id hp
    rw [← hc] at hm
    simpa using move h ih (.put hc rfl _) hm

/-- What a driver can be made to do. -/
inductive Act where
  | begin (call : Call)
  | step (id : CallId)

/-- Does one act after another, if all steps can be taken. -/
def play : List Act → List Event → Machine W C → Option (List Event × Machine W C)
  | [], log, m => some (log, m)
  | .begin call :: acts, log, m => play acts log (m.begin call)
  | .step id :: acts, log, m =>
    (m.step id).bind fun m' => play acts (log ++ (m.event? id).toList) m'

theorem Logged.play {acts : List Act} {log log' : List Event} {m' : Machine W C}
    (h : Logged config backends world log m)
    (hp : Overlap.play acts log m = some (log', m')) : Logged config backends world log' m' := by
  induction acts generalizing log m with
  | nil =>
    cases hp
    exact h
  | cons act acts ih =>
    cases act with
    | begin call => exact ih (.begin call h) hp
    | step id =>
      obtain ⟨m₁, hs, hp⟩ := Option.bind_eq_some_iff.mp hp
      exact ih (.step id h hs) hp

end GuestNet.Overlap
