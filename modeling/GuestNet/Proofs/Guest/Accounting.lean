import GuestNet.Proofs.Driver.Effects
import GuestNet.Proofs.Guest.Events

/-! Who knows of the handles that are live. Over any calls, those that a host makes itself and those
of its guests, a handle is live just if an open has told of it and it was not closed since. -/
namespace GuestNet

namespace Driver

variable {W C : Type}

/-- The handles that are live. -/
def live (d : Driver W C) : Set Handle := {h | d.isOpen h = true}

/-- What was called, with what the caller was told and the guest's memory afterwards. -/
inductive Entry where
  | host (call : Call) (outcome : Outcome)
  | guest (call : GuestCall) (answer : GuestAnswer) (memory : Memory)

namespace Entry

/-- The handle that an open which succeeds tells of. A guest finds it in its slot. -/
def issued? : Entry → Option Handle
  | host (.openTarget _ _) (.ok (.handle h)) => some h
  | guest (.openTarget _ _ _ _ out) (.code .success) memory => some (.ofNat (memory.word out))
  | _ => none

/-- The caller was told that the handle is closed, or that all of them are. -/
def Ends (h : Handle) : Entry → Prop
  | host (.close k) (.ok _) => k = h
  | host .closeAll (.ok _) => True
  | guest (.close k) (.code .success) _ => k = h
  | _ => False

/-- An open has told of the handle, and no later entry ends it. -/
def Outstanding (log : List Entry) (h : Handle) : Prop :=
  ∃ before e after, log = before ++ e :: after ∧ e.issued? = some h ∧ ∀ x ∈ after, ¬ x.Ends h

variable {log : List Entry} {e : Entry} {h : Handle}

theorem not_outstanding_nil : ¬ Outstanding [] h := by
  rintro ⟨before, e, after, hlog, -, -⟩
  simp at hlog

theorem outstanding_concat :
    Outstanding (log ++ [e]) h ↔ e.issued? = some h ∨ Outstanding log h ∧ ¬ e.Ends h := by
  constructor
  · rintro ⟨before, x, after, hlog, hx, hafter⟩
    rcases List.eq_nil_or_concat after with rfl | ⟨after, y, rfl⟩
    · obtain ⟨-, he⟩ := List.append_inj' hlog rfl
      cases he
      exact .inl hx
    · rw [List.concat_eq_append, ← List.cons_append, ← List.append_assoc] at hlog
      obtain ⟨hfront, he⟩ := List.append_inj' hlog rfl
      cases he
      refine .inr ⟨⟨before, x, after, hfront, hx, fun z hz => hafter z ?_⟩, hafter e ?_⟩
      · simp [hz]
      · simp
  · rintro (he | ⟨⟨before, x, after, rfl, hx, hafter⟩, he⟩)
    · exact ⟨log, e, [], rfl, he, fun _ hz => absurd hz List.not_mem_nil⟩
    · refine ⟨before, x, after ++ [e], by simp, hx, fun z hz => ?_⟩
      rcases List.mem_append.mp hz with hz | hz
      · exact hafter z hz
      · rwa [List.mem_singleton.mp hz]

theorem issued?_guest {c : GuestCall} {answer : GuestAnswer} (hn : answer ≠ .code .success)
    (memory : Memory) : (guest c answer memory).issued? = none := by
  unfold issued?
  split
  · rename_i he
    cases he
  · rename_i he
    cases he
    exact absurd rfl hn
  · rfl

theorem not_ends_guest {c : GuestCall} {answer : GuestAnswer} (hn : answer ≠ .code .success)
    (memory : Memory) (h : Handle) : ¬ (guest c answer memory).Ends h := by
  unfold Ends
  split
  · rename_i he
    cases he
  · rename_i he
    cases he
  · rename_i he
    cases he
    exact absurd rfl hn
  · exact id

/-- An entry tells what has become of the handles. -/
structure Accounts (e : Entry) (d d' : Driver W C) : Prop where
  live : ∀ h, h ∈ d'.live ↔ e.issued? = some h ∨ h ∈ d.live ∧ ¬ e.Ends h
  fresh : ∀ h, e.issued? = some h → h ∉ d.live

namespace Accounts

variable {d d' : Driver W C}

theorem live_eq (ha : e.Accounts d d') (hi : e.issued? = none) (he : ∀ h, ¬ e.Ends h) :
    d'.live = d.live := by
  ext h
  rw [ha.live, hi]
  simp [he]

theorem of_live_eq (hl : d'.live = d.live) (hi : e.issued? = none) (he : ∀ h, ¬ e.Ends h) :
    e.Accounts d d' where
  live h := by simp [hl, hi, he]
  fresh h hh := by cases hi.symm.trans hh

/-- It is up to the entry only in what it tells of. -/
theorem congr {e' : Entry} (ha : e.Accounts d d') (hi : e'.issued? = e.issued?)
    (he : ∀ h, e'.Ends h ↔ e.Ends h) : e'.Accounts d d' where
  live h := by rw [ha.live, hi, he]
  fresh h hh := ha.fresh h (hi.symm.trans hh)

end Accounts
end Entry

variable [Connection C] {d : Driver W C} {bound : Nat} {h : Handle}

omit [Connection C] in
theorem mem_live_iff : h ∈ d.live ↔ ∃ s, d.table.get? h = some s :=
  HandleTable.contains_eq_true_iff

theorem accounts_call (hb : d.table.Bounded bound) (c : Call) :
    (Entry.host c (call c d).1).Accounts d (call c d).2 := by
  have he := effect_call c d
  generalize call c d = r at he
  obtain ⟨o, d'⟩ := r
  dsimp only at he ⊢
  generalize ht : d'.table = t at he
  have unchanged (hget : t.get? = d.table.get?) : d'.live = d.live := by
    ext k
    rw [mem_live_iff, mem_live_iff, ht, hget]
  cases he with
  | refused =>
    refine .of_live_eq (unchanged rfl) ?_ ?_
    · cases c <;> rfl
    · intro k hk
      cases c <;> exact hk
  | looked => exact .of_live_eq (unchanged rfl) rfl fun _ hk => hk
  | issued s hf =>
    have hfree : d.table.get? d.table.free = none := hb.get?_free (hb.size_ne hf)
    constructor
    · intro k
      rw [mem_live_iff, mem_live_iff, ht, HandleTable.get?_issue, Function.update_apply]
      split
      · rename_i hk
        simp [Entry.issued?, hk]
      · rename_i hk
        simp [Entry.issued?, Entry.Ends, Ne.symm hk]
    · intro k hk
      cases hk
      rw [mem_live_iff, hfree]
      rintro ⟨s, hs⟩
      cases hs
  | @performed h s op hg =>
    refine .of_live_eq ?_ rfl fun _ hk => hk
    ext k
    rw [mem_live_iff, mem_live_iff, ht, HandleTable.get?_put, Function.update_apply]
    split
    · rename_i hk
      simp [hk, hg]
    · rfl
  | @closed h s hg =>
    refine ⟨fun k => ?_, nofun⟩
    rw [mem_live_iff, mem_live_iff, ht, HandleTable.get?_drop, Function.update_apply]
    split
    · rename_i hk
      simp [Entry.issued?, Entry.Ends, hk]
    · rename_i hk
      simp [Entry.issued?, Entry.Ends, Ne.symm hk]
  | drained =>
    refine ⟨fun k => ?_, nofun⟩
    rw [mem_live_iff, ht, HandleTable.get?_drained]
    simp [Entry.issued?, Entry.Ends]

/-- The connection is closed once, and whether it fails to close has no part in the outcome. -/
theorem call_close {s : Slot C} (hs : d.table.get? h = some s) :
    (call (.close h) d).1 = .ok .nothing ∧
      (call (.close h) d).2.released = (Connection.close s.connection).2 :: d.released := by
  rw [call, close, HandleTable.release_of_get? hs]
  exact ⟨rfl, rfl⟩

theorem call_close_eq_ok_iff : (call (.close h) d).1 = .ok .nothing ↔ h ∈ d.live := by
  rw [mem_live_iff]
  constructor
  · intro ho
    cases hg : d.table.get? h with
    | none =>
      rw [call, close, HandleTable.release_of_get?_none hg] at ho
      cases ho
    | some s => exact ⟨s, rfl⟩
  · rintro ⟨s, hs⟩
    exact (call_close hs).1

/-- All connections are closed, each of them once. -/
theorem call_closeAll (d : Driver W C) : (call .closeAll d).2.live = ∅ ∧
    ∃ entries : List (Handle × Slot C), (entries.map Prod.fst).Nodup ∧
      (∀ h s, (h, s) ∈ entries ↔ d.table.get? h = some s) ∧
      (call .closeAll d).2.released =
        (entries.map fun e => (Connection.close e.2.connection).2).reverse ++ d.released := by
  refine ⟨?_, d.table.drain.1, d.table.nodup_drain, fun h s => HandleTable.mem_drain_iff, rfl⟩
  rw [Set.eq_empty_iff_forall_notMem]
  intro h hh
  obtain ⟨s, hs⟩ := mem_live_iff.mp hh
  cases (HandleTable.get?_drained d.table h).symm.trans hs

/-- An open either succeeds and one more handle is live, or fails and the same handles are. -/
theorem live_openTarget (hb : d.table.Bounded bound) (raw options : String) :
    let r := call (.openTarget raw options) d
    (∃ e, r.1 = .error e) ∧ r.2.live = d.live ∨
      ∃ k ∉ d.live, r.1 = .ok (.handle k) ∧ r.2.live = insert k d.live := by
  intro r
  have ha : (Entry.host (.openTarget raw options) r.1).Accounts d r.2 := accounts_call hb _
  rcases ho : r.1 with e | reply
  · rw [ho] at ha
    exact .inl ⟨⟨e, rfl⟩, ha.live_eq rfl fun _ hk => hk⟩
  · obtain ⟨k, -, rfl⟩ := exists_of_map_eq_ok ho
    rw [ho] at ha
    refine .inr ⟨k, ha.fresh k rfl, rfl, ?_⟩
    ext j
    rw [ha.live, Set.mem_insert_iff]
    simp [Entry.issued?, Entry.Ends, eq_comm]

theorem reply_of_perform {op : Operation} {reply : Reply}
    (hr : (call (.perform h op) d).1 = .ok reply) : op.Gives reply := by
  cases hg : d.table.get? h with
  | none =>
    rw [call, perform, HandleTable.lookup_of_get?_none hg] at hr
    cases hr
  | some s =>
    rw [call_perform hg] at hr
    exact Slot.gives_of_perform hr

end Driver

namespace GuestCall

open Driver

variable {W C : Type} [Connection C] {d : Driver W C} {bound : Nat} {h : Handle} {m : Memory}
  {c : GuestCall}

theorem run_close (h : Handle) (m : Memory) (d : Driver W C) :
    (GuestCall.close h).run m d =
      ((Driver.call (.close h) d).1.code, m, (Driver.call (.close h) d).2) := by
  have hrequest : (GuestCall.close h).request d m = .ok (.close h) := rfl
  have hhost : Host.call (.close h) d = Driver.call (.close h) d := rfl
  rw [run, hrequest]
  dsimp only
  rw [hhost]
  rcases Driver.call (.close h) d with ⟨e | reply, d'⟩
  · rfl
  · rfl

/-- A call that stands for an operation does that or nothing, whatever the code. -/
theorem run_operation {op : Operation}
    (hop : c.direct d.setup.config.maxTransfer m = .perform h op) :
    (c.run m d).2.2 = d ∨ (c.run m d).2.2 = (Driver.call (.perform h op) d).2 := by
  rw [run]
  cases hr : c.request d m with
  | error e => exact .inl rfl
  | ok call =>
    obtain ⟨-, hcall⟩ := direct_of_request hr
    have hhost : Host.call call d = Driver.call (.perform h op) d := by
      rw [hcall]
      exact congrArg (Driver.call · d) hop
    right
    dsimp only
    rw [hhost]
    rcases hperform : Driver.call (.perform h op) d with ⟨e | reply, d'⟩
    · rfl
    · dsimp only
      rcases c.store m reply with ⟨e | _, m'⟩
      · -- what an operation gives is no handle that would have to be closed again
        have hgives : op.Gives reply := reply_of_perform (by rw [hperform])
        cases reply with
        | handle k => cases op <;> cases hgives
        | _ => rfl
      · rfl

/-- A guest's open either succeeds, one more handle is live and the slot has it, or fails and the
same handles are live. -/
theorem run_openTarget (hb : d.table.Bounded bound) (target targetLen options optionsLen out : UInt32)
    (m : Memory) :
    let r := (GuestCall.openTarget target targetLen options optionsLen out).run m d
    r.1 ≠ .success ∧ r.2.2.live = d.live ∨
      r.1 = .success ∧
        ∃ k ∉ d.live, r.2.2.live = insert k d.live ∧ r.2.1.word out = k.toNat := by
  intro r
  have hr : r = (GuestCall.openTarget target targetLen options optionsLen out).run m d := rfl
  rw [run] at hr
  cases hrequest : (GuestCall.openTarget target targetLen options optionsLen out).request d m with
  | error e =>
    rw [hrequest] at hr
    rw [hr]
    exact .inl ⟨e.code_ne_success, rfl⟩
  | ok call =>
    obtain ⟨hv, hcall⟩ := direct_of_request hrequest
    obtain ⟨raw, given, rfl⟩ : ∃ raw given, call = .openTarget raw given := ⟨_, _, hcall⟩
    have hhost : Host.call (.openTarget raw given) d = Driver.call (.openTarget raw given) d := rfl
    have hlive := live_openTarget hb raw given
    rw [hrequest] at hr
    dsimp only at hr hlive
    rw [hhost] at hr
    generalize Driver.call (.openTarget raw given) d = answer at hr hlive
    obtain ⟨o, d'⟩ := answer
    dsimp only at hlive
    rcases hlive with ⟨⟨e, rfl⟩, hlive⟩ | ⟨k, hk, rfl, hlive⟩
    · rw [hr]
      exact .inl ⟨e.code_ne_success, hlive⟩
    · have hgives : ((GuestCall.openTarget target targetLen options optionsLen out).direct 0 m).Gives
          0 (.handle k) := trivial
      obtain ⟨m', hm', -, hbyte⟩ := store_of_valid hv hgives
      dsimp only at hr
      rw [hm'] at hr
      rw [hr]
      have hnumber : (GuestCall.openTarget target targetLen options optionsLen out).number
          (.handle k) < 2 ^ 32 := k.toNat_lt
      exact .inr ⟨rfl, k, hk, hlive, word_of_bytes rfl hnumber hbyte⟩

theorem bounded_run (hb : d.table.Bounded bound) (c : GuestCall) (m : Memory) :
    (c.run m d).2.2.table.Bounded bound := by
  rw [run]
  split
  · exact hb
  · rename_i call _
    have hcall : (Host.call call d).2.table.Bounded bound := bounded_call hb call
    split
    · rename_i ho
      rw [ho] at hcall
      exact hcall
    · rename_i ho
      rw [ho] at hcall
      split
      · unfold abandon
        split
        · exact bounded_call hcall _
        · exact hcall
      · exact hcall

end GuestCall

namespace Driver

variable {W C : Type} [Connection C] {d : Driver W C} {bound : Nat} {h : Handle}

theorem live_perform (hb : d.table.Bounded bound) (h : Handle) (op : Operation) :
    (call (.perform h op) d).2.live = d.live := by
  apply (accounts_call hb (.perform h op)).live_eq
  · rfl
  · exact fun _ hk => hk

theorem live_of_guest (hb : d.table.Bounded bound) (g : Guest) {c : GuestCall}
    (hc : c.handle? = some h) (hn : c ≠ .close h) : (g.call c d).2.2.live = d.live := by
  obtain ⟨m, shows⟩ := g
  cases shows with
  | false =>
    cases c with
    | close k =>
      cases hc
      exact absurd rfl hn
    | _ => rfl
  | true =>
    obtain ⟨op, hop⟩ : ∃ op, c.direct d.setup.config.maxTransfer m = .perform h op := by
      cases c with
      | openTarget => cases hc
      | close k =>
        cases hc
        exact absurd rfl hn
      | read | write | status | header =>
        cases hc
        exact ⟨_, rfl⟩
    have hcall : ((⟨m, true⟩ : Guest).call c d).2.2 = (c.run m d).2.2 := rfl
    rw [hcall]
    rcases GuestCall.run_operation hop with hd | hd
    · rw [hd]
    · rw [hd, live_perform hb]

/-- A guest closes as a host does, also where it shows no memory. -/
theorem guest_close (g : Guest) (h : Handle) (d : Driver W C) :
    g.call (.close h) d = (.code (call (.close h) d).1.code, g, (call (.close h) d).2) := by
  obtain ⟨m, shows⟩ := g
  cases shows with
  | false =>
    have hhost : Host.call (.close h) d = call (.close h) d := rfl
    simp only [Guest.call, hhost]
    rcases call (.close h) d with ⟨e | reply, d'⟩
    · rfl
    · rfl
  | true =>
    have hcall : (⟨m, true⟩ : Guest).call (.close h) d =
        (.code ((GuestCall.close h).run m d).1, ⟨((GuestCall.close h).run m d).2.1, true⟩,
          ((GuestCall.close h).run m d).2.2) := rfl
    rw [hcall, GuestCall.run_close]

theorem guest_close_eq_success_iff (g : Guest) :
    (g.call (.close h) d).1 = .code .success ↔ h ∈ d.live := by
  rw [guest_close, ← call_close_eq_ok_iff]
  constructor
  · intro hcode
    rcases ho : (call (.close h) d).1 with e | reply
    · rw [ho] at hcode
      exact absurd (GuestAnswer.code.inj hcode) e.code_ne_success
    · obtain ⟨_, -, rfl⟩ := exists_of_map_eq_ok ho
      rfl
  · intro ho
    rw [ho]
    rfl

theorem guest_open (hb : d.table.Bounded bound) (g : Guest)
    (target targetLen options optionsLen out : UInt32) :
    let r := g.call (.openTarget target targetLen options optionsLen out) d
    r.1 ≠ .code .success ∧ r.2.2.live = d.live ∨
      r.1 = .code .success ∧
        ∃ k ∉ d.live, r.2.2.live = insert k d.live ∧ r.2.1.memory.word out = k.toNat := by
  obtain ⟨m, shows⟩ := g
  cases shows with
  | false => exact .inl ⟨nofun, rfl⟩
  | true =>
    rcases GuestCall.run_openTarget hb target targetLen options optionsLen out m with
      ⟨hcode, hlive⟩ | ⟨hcode, hk⟩
    · exact .inl ⟨fun hr => hcode (GuestAnswer.code.inj hr), hlive⟩
    · exact .inr ⟨congrArg GuestAnswer.code hcode, hk⟩

theorem bounded_guest (hb : d.table.Bounded bound) (g : Guest) (c : GuestCall) :
    (g.call c d).2.2.table.Bounded bound := by
  by_cases hc : ∃ h, c = .close h
  · obtain ⟨h, rfl⟩ := hc
    rw [guest_close]
    exact bounded_call hb _
  · obtain ⟨m, shows⟩ := g
    cases shows with
    | false =>
      cases c with
      | close h => exact absurd ⟨h, rfl⟩ hc
      | _ => exact hb
    | true => exact GuestCall.bounded_run hb c m

theorem accounts_guest (hb : d.table.Bounded bound) (g : Guest) (c : GuestCall) :
    (Entry.guest c (g.call c d).1 (g.call c d).2.1.memory).Accounts d (g.call c d).2.2 := by
  cases c with
  | openTarget target targetLen options optionsLen out =>
    rcases guest_open hb g target targetLen options optionsLen out with
      ⟨hcode, hlive⟩ | ⟨hcode, k, hk, hlive, hword⟩
    · exact .of_live_eq hlive (Entry.issued?_guest hcode _) (Entry.not_ends_guest hcode _)
    · have hissued : (Entry.guest (.openTarget target targetLen options optionsLen out)
          (g.call (.openTarget target targetLen options optionsLen out) d).1
          (g.call (.openTarget target targetLen options optionsLen out) d).2.1.memory).issued? =
            some k := by
        rw [hcode, Entry.issued?, hword, UInt32.ofNat_toNat]
      constructor
      · intro h
        rw [hlive, hissued, Set.mem_insert_iff]
        simp [Entry.Ends, eq_comm]
      · intro h hh
        cases hissued.symm.trans hh
        exact hk
  | close h =>
    rw [guest_close]
    refine (accounts_call hb (.close h)).congr rfl fun k => ?_
    rcases (call (.close h) d).1 with e | reply
    · refine iff_of_false (Entry.not_ends_guest ?_ _ k) id
      exact fun hcode => e.code_ne_success (GuestAnswer.code.inj hcode)
    · exact .rfl
  | read | write | status | header =>
    exact .of_live_eq (live_of_guest hb g rfl nofun) rfl fun _ hh => hh

/-- What is done with a driver. A guest may be any one, and have anything in its memory. -/
inductive Act where
  | host (call : Call)
  | guest (guest : Guest) (call : GuestCall)

namespace Act

def take : Act → Driver W C → Entry × Driver W C
  | host c, d =>
    let (outcome, d) := Driver.call c d
    (.host c outcome, d)
  | guest g c, d =>
    let (answer, g, d) := g.call c d
    (.guest c answer g.memory, d)

/-- One act after another. -/
def takeAll : List Act → Driver W C → List Entry × Driver W C
  | [], d => ([], d)
  | a :: rest, d =>
    let (entry, d) := a.take d
    let (entries, d) := takeAll rest d
    (entry :: entries, d)

theorem accounts_take (hb : d.table.Bounded bound) (a : Act) :
    (a.take d).1.Accounts d (a.take d).2 ∧ (a.take d).2.table.Bounded bound := by
  cases a with
  | host c => exact ⟨accounts_call hb c, bounded_call hb c⟩
  | guest g c => exact ⟨accounts_guest hb g c, bounded_guest hb g c⟩

theorem live_takeAll (hb : d.table.Bounded bound) {log : List Entry}
    (hl : ∀ h, h ∈ d.live ↔ Entry.Outstanding log h) (acts : List Act) :
    (takeAll acts d).2.table.Bounded bound ∧
      ∀ h, h ∈ (takeAll acts d).2.live ↔ Entry.Outstanding (log ++ (takeAll acts d).1) h := by
  induction acts generalizing d log with
  | nil => exact ⟨hb, by simpa [takeAll] using hl⟩
  | cons a rest ih =>
    obtain ⟨ha, hb'⟩ := accounts_take hb a
    have hlive : ∀ h, h ∈ (a.take d).2.live ↔
        Entry.Outstanding (log ++ [(a.take d).1]) h := fun h => by
      rw [ha.live, Entry.outstanding_concat, hl]
    have hrest := ih hb' hlive
    rw [List.append_assoc] at hrest
    exact hrest

end Act

/-- What the entries so far tell of a driver, and what any call from now on does to the handles that
are live. -/
structure Accounted (log : List Entry) (d : Driver W C) : Prop where
  live : ∀ h, h ∈ d.live ↔ Entry.Outstanding log h
  openHandles : d.openHandles = {h | Entry.Outstanding log h}.ncard
  /-- A close succeeds just if the handle is live, however the connection closes. -/
  close : ∀ h, ((call (.close h) d).1 = .ok .nothing ↔ h ∈ d.live) ∧
    (∀ g : Guest, (g.call (.close h) d).1 = .code .success ↔ h ∈ d.live) ∧
    ∀ s, d.table.get? h = some s → (call (.close h) d).2.released =
      (Connection.close s.connection).2 :: d.released
  /-- What is asked under a handle leaves all handles live, whatever comes of it. -/
  perform : ∀ h op, (call (.perform h op) d).2.live = d.live
  guest : ∀ (g : Guest) (c : GuestCall) (h : Handle), c.handle? = some h → c ≠ .close h →
    (g.call c d).2.2.live = d.live
  /-- Every connection that is behind a handle is closed once, and no handle is left. -/
  closeAll : (call .closeAll d).2.live = ∅ ∧
    ∃ entries : List (Handle × Slot C), (entries.map Prod.fst).Nodup ∧
      (∀ h s, (h, s) ∈ entries ↔ d.table.get? h = some s) ∧
      (call .closeAll d).2.released =
        (entries.map fun e => (Connection.close e.2.connection).2).reverse ++ d.released
  /-- One more handle is live just if the opener is told of it. -/
  openTarget : ∀ raw options, let r := call (.openTarget raw options) d
    (∃ e, r.1 = .error e) ∧ r.2.live = d.live ∨
      ∃ k ∉ d.live, r.1 = .ok (.handle k) ∧ r.2.live = insert k d.live
  guestOpen : ∀ (g : Guest) (target targetLen options optionsLen out : UInt32),
    let r := g.call (.openTarget target targetLen options optionsLen out) d
    r.1 ≠ .code .success ∧ r.2.2.live = d.live ∨
      r.1 = .code .success ∧
        ∃ k ∉ d.live, r.2.2.live = insert k d.live ∧ r.2.1.memory.word out = k.toNat

/-- Whatever is done with a new driver, by its host and by guests, the handles that are live are
those that opens have told of and that were not closed since. -/
theorem accounted_takeAll (config : Config) (backends : List (Backend W C)) (world : W)
    (acts : List Act) :
    Accounted (Act.takeAll acts (.new config backends world)).1
      (Act.takeAll acts (.new config backends world)).2 := by
  have hb : (Driver.new config backends world).table.Bounded _ :=
    HandleTable.bounded_new config.maxHandles
  have hnone : ∀ h, h ∈ (Driver.new config backends world).live ↔ Entry.Outstanding [] h := by
    intro h
    refine iff_of_false ?_ Entry.not_outstanding_nil
    rw [mem_live_iff]
    rintro ⟨s, hs⟩
    cases (HandleTable.get?_new config.maxHandles h).symm.trans hs
  obtain ⟨hb', hlive⟩ := Act.live_takeAll hb hnone acts
  rw [List.nil_append] at hlive
  generalize (Act.takeAll acts (.new config backends world)).2 = d at hb' hlive ⊢
  refine
    { live := hlive
      openHandles := ?_
      close := fun h =>
        ⟨call_close_eq_ok_iff, guest_close_eq_success_iff, fun s hs => (call_close hs).2⟩
      perform := live_perform hb'
      guest := fun g c h => live_of_guest hb' g
      closeAll := call_closeAll d
      openTarget := live_openTarget hb'
      guestOpen := guest_open hb' }
  have hset : {h | d.table.contains h = true} = {h | Entry.Outstanding _ h} := Set.ext hlive
  exact d.table.size_eq_ncard.trans (congrArg Set.ncard hset)

namespace Ledger

open Scripted

/-- The first connection fails to close, and no connection has anything to read at first. -/
def config : Config := .withMaxHandles .default 2

def backends : List (Backend Tallies Link) :=
  [({ Script.plain [1, 2] with
    closeFaults := [some (.unsupported "close")], readFaults := [some .tryAgain] } : Script).backend "0"]

def target : Memory := .ofBytes [97, 0, 0, 0, 0, 0, 0, 0]

/-- The slot of the first guest's open ends outside the memory, and there is no room for the second
open of the host. -/
def acts : List Act :=
  [.host (.openTarget "a" ""), .guest ⟨target, true⟩ (.openTarget 0 1 1 0 5),
    .guest ⟨target, true⟩ (.openTarget 0 1 1 0 4), .guest ⟨target, true⟩ (.read 2 0 2 4),
    .host (.openTarget "a" ""), .guest ⟨target, false⟩ (.close 1), .host (.close 1),
    .host (.openTarget "a" "")]

theorem accounted_takeAll_of_acts :
    let r := Act.takeAll acts (.new config backends [])
    r.1.map Entry.issued? = [some 1, none, some 2, none, none, none, none, some 3] ∧
      r.2.isOpen 1 = false ∧ r.2.openHandles = 2 ∧
      (∀ h, h ∈ r.2.live ↔ Entry.Outstanding r.1 h) ∧ (call .closeAll r.2).2.live = ∅ := by
  intro r
  have ha : Accounted r.1 r.2 := accounted_takeAll config backends [] acts
  exact ⟨by decide +kernel, by decide +kernel, by decide +kernel, ha.live, ha.closeAll.1⟩

end Ledger
end Driver
end GuestNet
