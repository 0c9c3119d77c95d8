import GuestNet.Proofs.Connection.Streams
import GuestNet.Proofs.Driver.Effects

/-! Calls on different handles. What the use of a handle comes to is up to what the handle is bound
to, and nothing else in the table changes. So the calls on two handles can be made in any order, as
long as those on each of them stay in theirs. -/
namespace GuestNet

/-- The third list is made of the first two, each of which stays in its order. -/
inductive Interleaves {α : Type} : List α → List α → List α → Prop where
  | nil : Interleaves [] [] []
  | left {x : α} {xs ys zs : List α} : Interleaves xs ys zs → Interleaves (x :: xs) ys (x :: zs)
  | right {y : α} {xs ys zs : List α} : Interleaves xs ys zs → Interleaves xs (y :: ys) (y :: zs)

namespace Interleaves

variable {α : Type} {xs zs : List α}

theorem nil_right (xs : List α) : Interleaves xs [] xs := by
  induction xs with
  | nil => exact .nil
  | cons x xs ih => exact ih.left

theorem eq_of_nil_right (h : Interleaves xs [] zs) : zs = xs := by
  induction xs generalizing zs with
  | nil => cases h; rfl
  | cons x xs ih =>
    cases h with
    | left h => rw [ih h]

end Interleaves

namespace HandleTable

variable {α : Type} {t u : HandleTable α}

/-- Two tables in which the same is to be found, and which issue the same handles. -/
structure Same (t u : HandleTable α) : Prop where
  get? : t.get? = u.get?
  next : t.next = u.next
  capacity : t.capacity = u.capacity

namespace Same

theorem entries (h : t.Same u) : t.entries.Equiv u.entries :=
  .of_forall_constGet?_eq fun k => congrFun h.get? k

theorem size (h : t.Same u) : t.size = u.size := h.entries.size_eq

theorem contains (h : t.Same u) : t.contains = u.contains := by
  funext k
  rw [contains_eq_isSome, contains_eq_isSome, h.get?]

theorem isFull (h : t.Same u) : t.isFull = u.isFull := by
  rw [HandleTable.isFull, HandleTable.isFull, h.size, h.capacity]

theorem free (h : t.Same u) : t.free = u.free := by
  rw [HandleTable.free, HandleTable.free, h.contains, h.size, h.next]

theorem put (h : t.Same u) (k : Handle) (v : α) : (t.put k v).Same (u.put k v) where
  get? := by rw [get?_put, get?_put, h.get?]
  next := h.next
  capacity := h.capacity

theorem drop (h : t.Same u) (k : Handle) : (t.drop k).Same (u.drop k) where
  get? := by rw [get?_drop, get?_drop, h.get?]
  next := h.next
  capacity := h.capacity

theorem issue (h : t.Same u) (v : α) : (t.issue v).Same (u.issue v) where
  get? := by rw [get?_issue, get?_issue, h.get?, h.free]
  next := congrArg Handle.following h.free
  capacity := h.capacity

theorem entries_drain (h : t.Same u) : t.drain.1 = u.drain.1 := h.entries.toList_eq

theorem drain (h : t.Same u) : t.drain.2.Same u.drain.2 where
  get? := by funext k; rw [get?_drained, get?_drained]
  next := h.next
  capacity := h.capacity

end Same
end HandleTable

/-- What can be done with a handle. -/
inductive Use where
  | perform (operation : Operation)
  | close
  | isOpen

namespace Use

/-- The call that uses a handle. -/
def on (h : Handle) : Use → Call
  | perform op => .perform h op
  | close => .close h
  | isOpen => .isOpen h

variable {C : Type} [Connection C]

/-- What a use comes to by what the handle is bound to: what the caller is told, what the handle is
bound to afterwards, and the connections that are let go of. -/
def react (limit : Nat) (h : Handle) : Use → Option (Slot C) → Outcome × Option (Slot C) × List C
  | perform op, some s => ((s.perform limit op).1, some (s.perform limit op).2, [])
  | close, some s => (.ok .nothing, none, [(Connection.close s.connection).2])
  | perform _, none => (.error (.badHandle h), none, [])
  | close, none => (.error (.badHandle h), none, [])
  | isOpen, s => (.ok (.flag s.isSome), s, [])

/-- One use after another. The connection that is let go of last comes first. -/
def reactAll (limit : Nat) (h : Handle) :
    List Use → Option (Slot C) → List Outcome × Option (Slot C) × List C
  | [], s => ([], s, [])
  | u :: us, s =>
    let (outcome, s, gone) := u.react limit h s
    let (outcomes, s, more) := reactAll limit h us s
    (outcome :: outcomes, s, more ++ gone)

end Use

namespace Driver

variable {W C : Type} {d d' : Driver W C} {g h : Handle}

/-- Two drivers that differ at most in the order in which connections were let go of. -/
structure Alike (d d' : Driver W C) : Prop where
  setup : d.setup = d'.setup
  table : d.table.Same d'.table
  released : d.released.Perm d'.released
  world : d.world = d'.world

/-- What calls on handles have made of a driver: the handles are bound to what `bound` tells, and
the connections in `gone` were let go of. -/
structure Moved (d : Driver W C) (bound : Handle → Option (Slot C)) (gone : List C)
    (d' : Driver W C) : Prop where
  setup : d'.setup = d.setup
  get? : d'.table.get? = bound
  next : d'.table.next = d.table.next
  capacity : d'.table.capacity = d.table.capacity
  released : d'.released.Perm (gone ++ d.released)
  world : d'.world = d.world

theorem Moved.refl (d : Driver W C) : d.Moved d.table.get? [] d := by
  constructor <;> rfl

theorem Moved.trans {bound bound' : Handle → Option (Slot C)} {gone gone' all : List C}
    {d'' : Driver W C} (h : d.Moved bound gone d') (h' : d'.Moved bound' gone' d'')
    (hall : (gone' ++ gone).Perm all) : d.Moved bound' all d'' where
  setup := h'.setup.trans h.setup
  get? := h'.get?
  next := h'.next.trans h.next
  capacity := h'.capacity.trans h.capacity
  released := by
    have hmore := h'.released.trans (h.released.append_left gone')
    rw [← List.append_assoc] at hmore
    exact hmore.trans (hall.append_right _)
  world := h'.world.trans h.world

theorem Moved.alike {bound : Handle → Option (Slot C)} {gone : List C} {d₁ d₂ : Driver W C}
    (h₁ : d.Moved bound gone d₁) (h₂ : d.Moved bound gone d₂) : d₁.Alike d₂ where
  setup := h₁.setup.trans h₂.setup.symm
  table := ⟨h₁.get?.trans h₂.get?.symm, h₁.next.trans h₂.next.symm,
    h₁.capacity.trans h₂.capacity.symm⟩
  released := h₁.released.trans h₂.released.symm
  world := h₁.world.trans h₂.world.symm

variable [Connection C]

namespace Alike

theorem bind (ha : d.Alike d') (c : C) :
    (d.bind c).1 = (d'.bind c).1 ∧ (d.bind c).2.Alike (d'.bind c).2 := by
  rw [Driver.bind, Driver.bind, HandleTable.allocate, HandleTable.allocate, ha.table.isFull]
  by_cases hf : d'.table.isFull = true
  · rw [if_pos hf, if_pos hf]
    refine ⟨?_, ha.setup, ha.table, ha.released.cons c, ha.world⟩
    exact congrArg (fun n => Except.error (DriverError.tooManyHandles n)) ha.table.capacity
  · rw [if_neg hf, if_neg hf]
    exact ⟨congrArg Except.ok ha.table.free, ha.setup, ha.table.issue _, ha.released, ha.world⟩

theorem openTarget (ha : d.Alike d') (raw options : String) :
    (d.openTarget raw options).1 = (d'.openTarget raw options).1 ∧
      (d.openTarget raw options).2.Alike (d'.openTarget raw options).2 := by
  have hback : d.setup.backendFor d.table raw = d'.setup.backendFor d'.table raw := by
    simp only [Setup.backendFor, ha.setup, ha.table.isFull, ha.table.capacity]
  rw [Driver.openTarget, Driver.openTarget, hback]
  split
  · exact ⟨rfl, ha⟩
  · rw [ha.setup, ha.world]
    split
    · exact ⟨rfl, rfl, ha.table, ha.released, rfl⟩
    · rename_i c world _
      have hworld : Alike { d with setup := d'.setup, world := world } { d' with world := world } :=
        ⟨rfl, ha.table, ha.released, rfl⟩
      exact hworld.bind c

theorem perform (ha : d.Alike d') (k : Handle) (op : Operation) :
    (d.perform k op).1 = (d'.perform k op).1 ∧
      (d.perform k op).2.Alike (d'.perform k op).2 := by
  have hlookup : d.table.lookup k = d'.table.lookup k := by
    rw [HandleTable.lookup, HandleTable.lookup, ha.table.get?]
  rw [Driver.perform, Driver.perform, hlookup]
  split
  · exact ⟨rfl, ha⟩
  · rw [ha.setup]
    exact ⟨rfl, rfl, ha.table.put _ _, ha.released, ha.world⟩

theorem close (ha : d.Alike d') (k : Handle) :
    (d.close k).1 = (d'.close k).1 ∧ (d.close k).2.Alike (d'.close k).2 := by
  cases hg : d.table.get? k with
  | none =>
    have hg' : d'.table.get? k = none := (congrFun ha.table.get? k).symm.trans hg
    rw [Driver.close, Driver.close, HandleTable.release_of_get?_none hg,
      HandleTable.release_of_get?_none hg']
    exact ⟨rfl, ha⟩
  | some s =>
    have hg' : d'.table.get? k = some s := (congrFun ha.table.get? k).symm.trans hg
    rw [Driver.close, Driver.close, HandleTable.release_of_get? hg,
      HandleTable.release_of_get? hg']
    exact ⟨rfl, ha.setup, ha.table.drop k, ha.released.cons _, ha.world⟩

theorem closeAll (ha : d.Alike d') : d.closeAll.Alike d'.closeAll where
  setup := ha.setup
  table := ha.table.drain
  released := by
    simp only [Driver.closeAll, ha.table.entries_drain]
    exact ha.released.append_left _
  world := ha.world

theorem call (ha : d.Alike d') (c : Call) :
    (call c d).1 = (call c d').1 ∧ (call c d).2.Alike (call c d').2 := by
  cases c with
  | openTarget raw options =>
    obtain ⟨ho, hd⟩ := ha.openTarget raw options
    exact ⟨congrArg (Except.map Reply.handle) ho, hd⟩
  | perform k op => exact ha.perform k op
  | close k =>
    obtain ⟨ho, hd⟩ := ha.close k
    exact ⟨congrArg (Except.map fun _ => Reply.nothing) ho, hd⟩
  | closeAll => exact ⟨rfl, ha.closeAll⟩
  | isOpen k =>
    refine ⟨?_, ha⟩
    exact congrArg (fun live => Except.ok (Reply.flag (live k))) ha.table.contains

/-- No calls can tell such drivers apart. -/
theorem run (ha : d.Alike d') (calls : List Call) :
    (run calls d).1 = (run calls d').1 ∧ (run calls d).2.Alike (run calls d').2 := by
  induction calls generalizing d d' with
  | nil => exact ⟨rfl, ha⟩
  | cons c rest ih =>
    obtain ⟨ho, hd⟩ := ha.call c
    obtain ⟨hos, hds⟩ := ih hd
    exact ⟨congrArg₂ List.cons ho hos, hds⟩

end Alike

/-- The use of a handle is up to what the handle is bound to, and changes nothing else. -/
theorem call_on (h : Handle) (u : Use) (d : Driver W C) :
    let turn := u.react d.setup.config.maxTransfer h (d.table.get? h)
    (call (u.on h) d).1 = turn.1 ∧
      d.Moved (Function.update d.table.get? h turn.2.1) turn.2.2 (call (u.on h) d).2 := by
  have unmoved {v : Option (Slot C)} (hv : d.table.get? h = v) :
      d.Moved (Function.update d.table.get? h v) [] d := by
    rw [← hv, Function.update_eq_self]
    exact .refl d
  cases hg : d.table.get? h with
  | none =>
    cases u with
    | perform op =>
      rw [Use.on, call, perform, HandleTable.lookup_of_get?_none hg]
      exact ⟨rfl, unmoved hg⟩
    | close =>
      rw [Use.on, call, close, HandleTable.release_of_get?_none hg]
      exact ⟨rfl, unmoved hg⟩
    | isOpen =>
      refine ⟨?_, unmoved hg⟩
      rw [Use.on, call, isOpen, HandleTable.contains_eq_isSome, hg]
      rfl
  | some s =>
    cases u with
    | perform op =>
      rw [Use.on, call_perform hg]
      exact ⟨rfl, rfl, HandleTable.get?_put .., rfl, rfl, .rfl, rfl⟩
    | close =>
      rw [Use.on, call, close, HandleTable.release_of_get? hg]
      exact ⟨rfl, rfl, HandleTable.get?_drop .., rfl, rfl, .rfl, rfl⟩
    | isOpen =>
      refine ⟨?_, unmoved hg⟩
      rw [Use.on, call, isOpen, HandleTable.contains_eq_isSome, hg]
      rfl

/-- However the uses of two handles are put together, each handle goes through its own. -/
theorem run_on (hne : g ≠ h) {us vs : List Use} {calls : List Call}
    (hc : Interleaves (us.map (Use.on g)) (vs.map (Use.on h)) calls) (d : Driver W C) :
    let left := Use.reactAll d.setup.config.maxTransfer g us (d.table.get? g)
    let right := Use.reactAll d.setup.config.maxTransfer h vs (d.table.get? h)
    Interleaves ((us.map (Use.on g)).zip left.1) ((vs.map (Use.on h)).zip right.1)
        (calls.zip (run calls d).1) ∧
      d.Moved (Function.update (Function.update d.table.get? g left.2.1) h right.2.1)
        (left.2.2 ++ right.2.2) (run calls d).2 := by
  generalize hxs : us.map (Use.on g) = xs at hc
  generalize hys : vs.map (Use.on h) = ys at hc
  induction hc generalizing us vs d with
  | nil =>
    rw [List.map_eq_nil_iff] at hxs hys
    subst hxs hys
    refine ⟨.nil, ?_⟩
    simp only [Use.reactAll, Function.update_eq_self]
    exact .refl d
  | @left c xs ys calls _ ih =>
    obtain ⟨u, us, rfl, rfl, rfl⟩ := List.map_eq_cons_iff.mp hxs
    obtain ⟨ho, hm⟩ := call_on g u d
    obtain ⟨hlog, hrest⟩ := ih (call (u.on g) d).2 rfl hys
    have hg := congrFun hm.get? g
    have hh := congrFun hm.get? h
    rw [Function.update_self] at hg
    rw [Function.update_of_ne hne.symm] at hh
    rw [hm.setup, hg, hh] at hlog hrest
    rw [hm.get?, Function.update_idem] at hrest
    simp only [run, ho, Use.reactAll, List.zip_cons_cons]
    refine ⟨hlog.left, hm.trans hrest ?_⟩
    -- what the other handle lets go of is told after all of this one's
    rw [List.append_assoc, List.append_assoc]
    exact List.perm_append_comm.append_left _
  | @right c xs ys calls _ ih =>
    obtain ⟨u, us, rfl, rfl, rfl⟩ := List.map_eq_cons_iff.mp hys
    obtain ⟨ho, hm⟩ := call_on h u d
    obtain ⟨hlog, hrest⟩ := ih (call (u.on h) d).2 hxs rfl
    have hg := congrFun hm.get? g
    have hh := congrFun hm.get? h
    rw [Function.update_of_ne hne] at hg
    rw [Function.update_self] at hh
    rw [hm.setup, hg, hh] at hlog hrest
    rw [hm.get?, Function.update_comm hne.symm, Function.update_idem] at hrest
    simp only [run, ho, Use.reactAll, List.zip_cons_cons]
    refine ⟨hlog.right, hm.trans hrest ?_⟩
    rw [List.append_assoc]

/-- Calls on a handle alone. -/
theorem run_on_one (h : Handle) (us : List Use) (d : Driver W C) :
    let turns := Use.reactAll d.setup.config.maxTransfer h us (d.table.get? h)
    (us.map (Use.on h)).zip (run (us.map (Use.on h)) d).1 = (us.map (Use.on h)).zip turns.1 ∧
      (run (us.map (Use.on h)) d).2.table.get? = Function.update d.table.get? h turns.2.1 := by
  have : Nontrivial Handle := ⟨0, 1, by decide⟩
  obtain ⟨k, hk⟩ := exists_ne h
  have halone : Interleaves (us.map (Use.on h)) ([].map (Use.on k)) (us.map (Use.on h)) :=
    .nil_right _
  obtain ⟨hlog, hm⟩ := run_on hk.symm halone d
  refine ⟨hlog.eq_of_nil_right, hm.get?.trans ?_⟩
  simp only [Use.reactAll]
  rw [Function.update_comm hk.symm, Function.update_eq_self]

/-- What is done with one handle changes nothing of another one. Calls on two handles come to the
same in whatever order they are made: every call has the outcome that it has where the other handle
is not used, each handle is then bound to what its own calls leave, and no later calls of any kind
can tell in which order it was. -/
theorem run_interleaved (hne : g ≠ h) (us vs : List Use) (d : Driver W C) :
    (∀ u : Use, (call (u.on g) d).2.table.get? h = d.table.get? h) ∧
      ∀ calls, Interleaves (us.map (Use.on g)) (vs.map (Use.on h)) calls →
        Interleaves ((us.map (Use.on g)).zip (run (us.map (Use.on g)) d).1)
            ((vs.map (Use.on h)).zip (run (vs.map (Use.on h)) d).1)
            (calls.zip (run calls d).1) ∧
          (run calls d).2.table.get? g = (run (us.map (Use.on g)) d).2.table.get? g ∧
          (run calls d).2.table.get? h = (run (vs.map (Use.on h)) d).2.table.get? h ∧
          (∀ k, k ≠ g → k ≠ h → (run calls d).2.table.get? k = d.table.get? k) ∧
          ∀ others, Interleaves (us.map (Use.on g)) (vs.map (Use.on h)) others →
            (run calls d).2.Alike (run others d).2 ∧
              ∀ later, (run later (run calls d).2).1 = (run later (run others d).2).1 := by
  obtain ⟨hleft, hg⟩ := run_on_one g us d
  obtain ⟨hright, hh⟩ := run_on_one h vs d
  refine ⟨?_, fun calls hc => ?_⟩
  · intro u
    rw [(call_on g u d).2.get?, Function.update_of_ne hne.symm]
  · obtain ⟨hlog, hm⟩ := run_on hne hc d
    refine ⟨?_, ?_, ?_, ?_, fun others ho => ?_⟩
    · rw [hleft, hright]
      exact hlog
    · rw [hm.get?, hg, Function.update_of_ne hne, Function.update_self]
    · rw [hm.get?, hh, Function.update_self, Function.update_self]
    · intro k hkg hkh
      rw [hm.get?, Function.update_of_ne hkh, Function.update_of_ne hkg]
    · have ha := hm.alike (run_on hne ho d).2
      exact ⟨ha, fun later => (ha.run later).1⟩

namespace Turns

open Scripted

/-- Two streams, of which the first fails to close. -/
def driver : Driver Tallies Link :=
  (run [.openTarget "a" "", .openTarget "b" ""] (.new .default
    [({ Script.plain [1, 2, 3, 4] with
      closeFaults := [some .tryAgain] } : Script).backend "0"] [])).2

def first : List Use := [.perform (.read 3), .close, .perform (.read 3), .isOpen]

def second : List Use := [.perform (.read 1), .perform .status, .perform (.read 9)]

def calls : List Call :=
  [.perform 1 (.read 3), .perform 2 (.read 1), .close 1, .perform 2 .status,
    .perform 1 (.read 3), .perform 2 (.read 9), .isOpen 1]

theorem interleaves_calls : Interleaves (first.map (Use.on 1)) (second.map (Use.on 2)) calls :=
  .left (.right (.left (.right (.left (.right (.left .nil))))))

theorem run_interleaved_of_calls :
    (run calls driver).1 = [.ok (.bytes [1, 2, 3]), .ok (.bytes [1]), .ok .nothing,
        .error (.unsupported "status"), .error (.badHandle 1), .ok (.bytes [2, 3, 4]),
        .ok (.flag false)] ∧
      (run calls driver).2.Alike
        (run (second.map (Use.on 2) ++ first.map (Use.on 1)) driver).2 := by
  obtain ⟨-, hcalls⟩ := run_interleaved (g := 1) (h := 2) (by decide) first second driver
  obtain ⟨-, -, -, -, hothers⟩ := hcalls calls interleaves_calls
  obtain ⟨ha, -⟩ := hothers (second.map (Use.on 2) ++ first.map (Use.on 1))
    (.right (.right (.right (.nil_right (first.map (Use.on 1))))))
  exact ⟨by decide +kernel, ha⟩

end Turns
end Driver
end GuestNet
