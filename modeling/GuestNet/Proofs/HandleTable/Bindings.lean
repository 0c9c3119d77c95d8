import GuestNet.Proofs.HandleTable.Search

/-! A handle table in use: every run of requests does what a finite map does. What a handle is bound
to is a context, which a client that looked it up keeps, and can store into at any later time. -/
namespace GuestNet.HandleTable

/-- A value under the number of the allocation that made the context. -/
structure Context (β : Type) where
  made : Nat
  value : β
deriving DecidableEq, Repr

inductive Request (β : Type) where
  | allocate (value : β)
  | lookup (handle : Handle)
  /-- Stores into the context of this number, which was once found under the handle. -/
  | set (handle : Handle) (made : Nat) (value : β)
  | release (handle : Handle)
  | contains (handle : Handle)
  | size
  | isEmpty
  | drain

inductive Answer (β : Type) where
  | failed (error : DriverError)
  | issued (handle : Handle)
  | context (context : Context β)
  | stored
  | flag (value : Bool)
  | number (value : Nat)
  | entries (entries : List (Handle × Context β))

/-- A table and how many contexts were made for it. -/
structure Desk (β : Type) where
  table : HandleTable (Context β)
  made : Nat

namespace Desk

variable {β : Type}

def new (capacity : Nat) : Desk β := ⟨.new capacity, 0⟩

def answered (s : Desk β) {γ : Type} (found : γ → Answer β × Desk β) :
    Except DriverError γ → Answer β × Desk β
  | .error e => (.failed e, s)
  | .ok r => found r

/-- A context that its handle is no longer bound to can be stored into, but nobody finds it. -/
def store (s : Desk β) (h : Handle) (made : Nat) (v : β) : Desk β :=
  match s.table.lookup h with
  | .error _ => s
  | .ok c =>
    if c.made = made then { s with table := ((s.table.set h ⟨made, v⟩).toOption).getD s.table }
    else s

def serve (s : Desk β) : Request β → Answer β × Desk β
  | .allocate v => s.answered (fun (h, t) => (.issued h, ⟨t, s.made + 1⟩))
      (s.table.allocate ⟨s.made, v⟩)
  | .lookup h => s.answered (fun c => (.context c, s)) (s.table.lookup h)
  | .set h made v => (.stored, s.store h made v)
  | .release h => s.answered (fun (c, t) => (.context c, { s with table := t })) (s.table.release h)
  | .contains h => (.flag (s.table.contains h), s)
  | .size => (.number s.table.size, s)
  | .isEmpty => (.flag s.table.isEmpty, s)
  | .drain => (.entries s.table.drain.1, { s with table := s.table.drain.2 })

/-- Serves requests in their order, and keeps each with its answer. -/
def run : List (Request β) → Desk β → List (Request β × Answer β) × Desk β
  | [], s => ([], s)
  | r :: rest, s =>
    let (answer, s) := s.serve r
    let (log, s) := run rest s
    ((r, answer) :: log, s)

end Desk

/-- What the answers of a table tell, as a map. -/
structure Bindings (β : Type) where
  at? : Handle → Option (Context β)
  made : Nat

namespace Bindings

variable {β : Type}

def empty : Bindings β := ⟨fun _ => none, 0⟩

/-- Takes a request with its answer down. -/
def note (b : Bindings β) : Request β × Answer β → Bindings β
  | (.allocate v, .issued h) => ⟨Function.update b.at? h (some ⟨b.made, v⟩), b.made + 1⟩
  | (.set h made v, _) =>
    if (b.at? h).any (·.made = made) then { b with at? := Function.update b.at? h (some ⟨made, v⟩) }
    else b
  | (.release h, .context _) => { b with at? := Function.update b.at? h none }
  | (.drain, _) => { b with at? := fun _ => none }
  | _ => b

def ofLog (log : List (Request β × Answer β)) : Bindings β := log.foldl note empty

end Bindings

/-- How a table with room for so many handles has to serve a request. -/
inductive Serves {β : Type} (bound : Nat) (s : Desk β) :
    Request β → Answer β → Desk β → Prop where
  | full (v : β) : s.table.size = bound →
      Serves bound s (.allocate v) (.failed (.tooManyHandles bound)) s
  | issued {v : β} {h : Handle} {s' : Desk β} : s.table.size < bound → s.table.get? h = none →
      s'.table.get? = Function.update s.table.get? h (some ⟨s.made, v⟩) → s'.made = s.made + 1 →
        Serves bound s (.allocate v) (.issued h) s'
  | found {h : Handle} {c : Context β} : s.table.get? h = some c →
      Serves bound s (.lookup h) (.context c) s
  | notFound {h : Handle} : s.table.get? h = none →
      Serves bound s (.lookup h) (.failed (.badHandle h)) s
  | stored {h : Handle} {c : Context β} {v : β} {s' : Desk β} : s.table.get? h = some c →
      s'.table.get? = Function.update s.table.get? h (some ⟨c.made, v⟩) →
        s'.table.next = s.table.next → s'.made = s.made →
          Serves bound s (.set h c.made v) .stored s'
  | detached {h : Handle} {made : Nat} {v : β} : (∀ c, s.table.get? h = some c → c.made ≠ made) →
      Serves bound s (.set h made v) .stored s
  | released {h : Handle} {c : Context β} {s' : Desk β} : s.table.get? h = some c →
      s'.table.get? = Function.update s.table.get? h none → s'.table.next = s.table.next →
        s'.made = s.made → Serves bound s (.release h) (.context c) s'
  | notReleased {h : Handle} : s.table.get? h = none →
      Serves bound s (.release h) (.failed (.badHandle h)) s
  | contains (h : Handle) : Serves bound s (.contains h) (.flag (s.table.get? h).isSome) s
  | size : Serves bound s .size (.number {h | s.table.contains h = true}.ncard) s
  | isEmpty {b : Bool} : (b = true ↔ ∀ h, s.table.get? h = none) →
      Serves bound s .isEmpty (.flag b) s
  | drained {entries : List (Handle × Context β)} {s' : Desk β} :
      (entries.map Prod.fst).Nodup → (∀ h c, (h, c) ∈ entries ↔ s.table.get? h = some c) →
        (∀ h, s'.table.get? h = none) → s'.table.next = s.table.next → s'.made = s.made →
          Serves bound s .drain (.entries entries) s'

namespace Desk

variable {β : Type} {s : Desk β} {bound : Nat}

theorem store_of_bound {h : Handle} {c : Context β} (hc : s.table.get? h = some c) (v : β) :
    s.store h c.made v = { s with table := s.table.put h ⟨c.made, v⟩ } := by
  simp only [store, lookup_of_get? hc, if_pos, set_of_get? hc, Except.toOption, Option.getD_some]

theorem store_of_detached {h : Handle} {made : Nat}
    (hd : ∀ c, s.table.get? h = some c → c.made ≠ made) (v : β) : s.store h made v = s := by
  cases hg : s.table.get? h with
  | none => simp only [store, lookup_of_get?_none hg]
  | some c => simp only [store, lookup_of_get? hg, if_neg (hd c hg)]

/-- A table in bounds serves every request as it has to, and stays in bounds. -/
theorem serve_spec (hb : s.table.Bounded bound) (r : Request β) :
    Serves bound s r (s.serve r).1 (s.serve r).2 ∧ (s.serve r).2.table.Bounded bound := by
  cases r with
  | allocate v =>
    by_cases hs : s.table.size = bound
    · simp only [serve, hb.allocate_of_full hs, answered]
      exact ⟨.full v hs, hb⟩
    · simp only [serve, hb.allocate_of_room hs, answered]
      exact ⟨.issued (hb.size_le.lt_of_ne hs) (hb.get?_free hs) (get?_issue ..) rfl, hb.issue hs _⟩
  | lookup h =>
    cases hg : s.table.get? h with
    | none =>
      simp only [serve, lookup_of_get?_none hg, answered]
      exact ⟨.notFound hg, hb⟩
    | some c =>
      simp only [serve, lookup_of_get? hg, answered]
      exact ⟨.found hg, hb⟩
  | set h made v =>
    by_cases hc : ∃ c, s.table.get? h = some c ∧ c.made = made
    · obtain ⟨c, hg, rfl⟩ := hc
      simp only [serve, store_of_bound hg]
      exact ⟨.stored hg (get?_put ..) rfl rfl, hb.put hg _⟩
    · have hd : ∀ c, s.table.get? h = some c → c.made ≠ made := fun c hg he => hc ⟨c, hg, he⟩
      simp only [serve, store_of_detached hd]
      exact ⟨.detached hd, hb⟩
  | release h =>
    cases hg : s.table.get? h with
    | none =>
      simp only [serve, release_of_get?_none hg, answered]
      exact ⟨.notReleased hg, hb⟩
    | some c =>
      simp only [serve, release_of_get? hg, answered]
      exact ⟨.released hg (get?_drop ..) rfl rfl, hb.drop h⟩
  | contains h =>
    refine ⟨?_, hb⟩
    rw [serve, contains_eq_isSome]
    exact .contains h
  | size =>
    refine ⟨?_, hb⟩
    rw [serve, size_eq_ncard]
    exact .size
  | isEmpty => exact ⟨.isEmpty isEmpty_eq_true_iff, hb⟩
  | drain =>
    exact ⟨.drained (nodup_drain _) (fun _ _ => mem_drain_iff) (get?_drained _) rfl rfl, hb.drained⟩

end Desk

/-- The map that the answers tell is the one in the table. -/
def Desk.Shows {β : Type} (s : Desk β) (b : Bindings β) : Prop :=
  s.table.get? = b.at? ∧ s.made = b.made

theorem Serves.shows {β : Type} {s s' : Desk β} {bound : Nat} {r : Request β} {a : Answer β}
    {b : Bindings β} (hs : Serves bound s r a s') (hb : s.Shows b) : s'.Shows (b.note (r, a)) := by
  obtain ⟨hat, hmade⟩ := hb
  cases hs with
  | full | found | notFound | notReleased | contains | size | isEmpty => exact ⟨hat, hmade⟩
  | issued _ _ hget hnext => exact ⟨by rw [hget, hat, hmade]; rfl, by rw [hnext, hmade]; rfl⟩
  | stored hg hget _ hm =>
    rw [hat] at hg
    simp only [Bindings.note, hg, Option.any_some, decide_true, if_true]
    exact ⟨by rw [hget, hat], hm.trans hmade⟩
  | detached hd =>
    rw [hat] at hd
    have hnone : ∀ h made, (∀ c, b.at? h = some c → c.made ≠ made) →
        (b.at? h).any (·.made = made) = false := by
      intro h made hd
      cases hg : b.at? h with
      | none => rfl
      | some c => simpa using hd c hg
    simp only [Bindings.note, hnone _ _ hd]
    exact ⟨hat, hmade⟩
  | released _ hget _ hm => exact ⟨by rw [hget, hat]; rfl, hm.trans hmade⟩
  | drained _ _ hget _ hm => exact ⟨funext hget, hm.trans hmade⟩

theorem Desk.run_spec {β : Type} {s : Desk β} {bound : Nat} {b : Bindings β}
    (hb : s.table.Bounded bound) (hs : s.Shows b) (requests : List (Request β)) :
    (run requests s).2.table.Bounded bound ∧
      (run requests s).2.Shows ((run requests s).1.foldl Bindings.note b) := by
  induction requests generalizing s b with
  | nil => exact ⟨hb, hs⟩
  | cons r rest ih =>
    obtain ⟨hserves, hb'⟩ := serve_spec hb r
    exact ih hb' (hserves.shows hs)

/-- After any requests to a new table, however often the counter went around, the live handles and
the counter are in range, no more handles are live than there is room for, every handle is bound to
what the answers so far tell, and the next request is served as of a finite map. -/
theorem run_refines_map {β : Type} (capacity : Nat) (requests : List (Request β))
    (r : Request β) :
    let bound := min capacity Handle.greatest.toNat
    let log := (Desk.run requests (.new capacity)).1
    let s := (Desk.run requests (.new capacity)).2
    (∀ h, s.table.contains h = true → h.InRange) ∧ s.table.next.InRange ∧
      s.table.size = {h | s.table.contains h = true}.ncard ∧ s.table.size ≤ bound ∧
      s.table.get? = (Bindings.ofLog log).at? ∧ Serves bound s r (s.serve r).1 (s.serve r).2 := by
  intro bound log s
  obtain ⟨hb, hshows⟩ := Desk.run_spec (s := Desk.new capacity) (b := .empty)
    (bounded_new capacity) ⟨funext (get?_new capacity), rfl⟩ requests
  exact ⟨hb.live, hb.next, size_eq_ncard _, hb.size_le, hshows.1, (Desk.serve_spec hb r).1⟩

end GuestNet.HandleTable
