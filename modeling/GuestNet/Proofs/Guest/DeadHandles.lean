import GuestNet.Proofs.Guest.Accounting
import GuestNet.Proofs.Guest.Refinement
import GuestNet.Proofs.Overlap.Issuing

/-! Handles that are not live. Whoever names one learns that it is none, and nothing else happens;
and it stays so until an open brings the handle to life. Before the counter has gone around no open
brings one back. -/
namespace GuestNet

namespace GuestCall

variable {W C : Type} [Connection C] {d : Driver W C} {m : Memory}

/-- A guest's call comes to one call on the driver or to none. -/
theorem run_eq_or_call (c : GuestCall) (m : Memory) (d : Driver W C) :
    (c.run m d).2.2 = d ∨ ∃ call, (c.run m d).2.2 = (Driver.call call d).2 := by
  rw [run]
  cases hr : c.request d m with
  | error e => exact .inl rfl
  | ok call =>
    refine .inr ⟨call, ?_⟩
    obtain ⟨hv, hcall⟩ := direct_of_request hr
    have hhost : Host.call call d = Driver.call call d := rfl
    dsimp only
    rw [hhost]
    rcases Driver.call call d with ⟨e | reply, d'⟩
    · rfl
    · dsimp only
      rcases hstore : c.store m reply with ⟨e | _, m'⟩
      · cases reply with
        | handle k =>
          cases c with
          | openTarget target targetLen options optionsLen out =>
            -- the slot was looked at before, so that the handle can be put there
            have hgives : ((GuestCall.openTarget target targetLen options optionsLen out).direct 0
                m).Gives 0 (.handle k) := trivial
            obtain ⟨m', hm', -⟩ := store_of_valid hv hgives
            cases hm'.symm.trans hstore
          | _ => cases hstore
        | _ => rfl
      · rfl

end GuestCall

namespace Driver

variable {W C : Type} [Connection C] {d : Driver W C} {bound : Nat} {h : Handle}

theorem guest_eq_or_call (g : Guest) (c : GuestCall) (d : Driver W C) :
    (g.call c d).2.2 = d ∨ ∃ k, (g.call c d).2.2 = (call k d).2 := by
  by_cases hc : ∃ h, c = .close h
  · obtain ⟨h, rfl⟩ := hc
    rw [guest_close]
    exact .inr ⟨.close h, rfl⟩
  · obtain ⟨m, shows⟩ := g
    cases shows with
    | false =>
      cases c with
      | close h => exact absurd ⟨h, rfl⟩ hc
      | _ => exact .inl rfl
    | true => exact GuestCall.run_eq_or_call c m d

/-- The counter moves where a handle is issued, and nowhere else. -/
theorem Effect.next {c : Call} {o : Outcome} {t : HandleTable (Slot C)} (he : Effect d c o t) :
    (t.next = d.table.next ∧ ∀ h, t.contains h = true → d.table.contains h = true) ∨
      d.table.isFull = false ∧ ∃ s, t = d.table.issue s := by
  have hsub {t : HandleTable (Slot C)}
      (hget : ∀ h s, t.get? h = some s → ∃ s', d.table.get? h = some s') (h : Handle)
      (hh : t.contains h = true) : d.table.contains h = true := by
    obtain ⟨s, hs⟩ := HandleTable.contains_eq_true_iff.mp hh
    exact HandleTable.contains_eq_true_iff.mpr (hget h s hs)
  cases he with
  | refused | looked => exact .inl ⟨rfl, fun _ hh => hh⟩
  | issued s hf => exact .inr ⟨hf, s, rfl⟩
  | @performed h s op hg =>
    refine .inl ⟨rfl, hsub fun k t ht => ?_⟩
    rw [HandleTable.get?_put, Function.update_apply] at ht
    split at ht
    · rename_i hk
      exact ⟨s, hk ▸ hg⟩
    · exact ⟨t, ht⟩
  | @closed h s hg =>
    refine .inl ⟨rfl, hsub fun k t ht => ?_⟩
    rw [HandleTable.get?_drop, Function.update_apply] at ht
    split at ht
    · cases ht
    · exact ⟨t, ht⟩
  | drained => exact .inl ⟨rfl, hsub fun k t ht => by simp at ht⟩

namespace Act

theorem take_eq_or_call (a : Act) (d : Driver W C) :
    (a.take d).2 = d ∨ ∃ c, (a.take d).2 = (call c d).2 := by
  cases a with
  | host c => exact .inr ⟨c, rfl⟩
  | guest g c => exact guest_eq_or_call g c d

theorem issues_take (hb : d.table.Bounded bound) {issued : List Handle}
    (hi : HandleTable.Issues issued d.table) (a : Act) :
    HandleTable.Issues (issued ++ (a.take d).1.issued?.toList) (a.take d).2.table := by
  obtain ⟨ha, -⟩ := accounts_take hb a
  have hnext : ((a.take d).2.table.next = d.table.next ∧
      ∀ h, (a.take d).2.table.contains h = true → d.table.contains h = true) ∨
        d.table.isFull = false ∧ ∃ s, (a.take d).2.table = d.table.issue s := by
    rcases a.take_eq_or_call d with hd | ⟨c, hd⟩
    · rw [hd]
      exact .inl ⟨rfl, fun _ hh => hh⟩
    · rw [hd]
      exact (effect_call c d).next
  rcases hnext with ⟨hnext, hlive⟩ | ⟨hf, s, ht⟩
  · have hnone : (a.take d).1.issued? = none := by
      cases hk : (a.take d).1.issued? with
      | none => rfl
      | some k => exact absurd (hlive k ((ha.live k).mpr (.inl hk))) (ha.fresh k hk)
    rw [hnone, Option.toList_none, List.append_nil]
    exact hi.of_next_eq hnext hlive
  · have hfree : d.table.get? d.table.free = none := hb.get?_free (hb.size_ne hf)
    have hsome : (a.take d).1.issued? = some d.table.free := by
      have hmem : d.table.free ∈ (a.take d).2.live := by
        rw [mem_live_iff, ht, HandleTable.get?_issue, Function.update_self]
        exact ⟨s, rfl⟩
      rcases (ha.live _).mp hmem with hk | ⟨hk, -⟩
      · exact hk
      · obtain ⟨s', hs'⟩ := mem_live_iff.mp hk
        cases hfree.symm.trans hs'
    rw [hsome, ht]
    exact hi.issue s

theorem bounded_takeAll (hb : d.table.Bounded bound) (acts : List Act) :
    (takeAll acts d).2.table.Bounded bound := by
  induction acts generalizing d with
  | nil => exact hb
  | cons a rest ih => exact ih (accounts_take hb a).2

theorem issues_takeAll (hb : d.table.Bounded bound) {issued : List Handle}
    (hi : HandleTable.Issues issued d.table) (acts : List Act) :
    HandleTable.Issues (issued ++ (takeAll acts d).1.filterMap Entry.issued?)
      (takeAll acts d).2.table := by
  induction acts generalizing d issued with
  | nil =>
    rw [takeAll, List.filterMap_nil, List.append_nil]
    exact hi
  | cons a rest ih =>
    have hrest := ih (accounts_take hb a).2 (issues_take hb hi a)
    have hlog : ((a.take d).1 :: (takeAll rest (a.take d).2).1).filterMap Entry.issued? =
        (a.take d).1.issued?.toList ++ (takeAll rest (a.take d).2).1.filterMap Entry.issued? := by
      rw [List.filterMap_cons]
      cases (a.take d).1.issued? <;> rfl
    rw [List.append_assoc, ← hlog] at hrest
    exact hrest

/-- Only an open brings a handle to life. -/
theorem not_mem_live_takeAll (hb : d.table.Bounded bound) (hh : h ∉ d.live) {acts : List Act}
    (hacts : ∀ e ∈ (takeAll acts d).1, e.issued? ≠ some h) : h ∉ (takeAll acts d).2.live := by
  induction acts generalizing d with
  | nil => exact hh
  | cons a rest ih =>
    obtain ⟨ha, hb'⟩ := accounts_take hb a
    have hissued : (a.take d).1.issued? ≠ some h := hacts _ List.mem_cons_self
    have hh' : h ∉ (a.take d).2.live := by
      rw [ha.live]
      rintro (hk | ⟨hk, -⟩)
      · exact hissued hk
      · exact hh hk
    exact ih hb' hh' fun e he => hacts e (List.mem_cons_of_mem _ he)

end Act

/-- A handle is not live. Whoever asks under it is told so, and neither the driver nor a guest's
memory is any different afterwards. -/
structure Dead (h : Handle) (d : Driver W C) : Prop where
  isOpen : call (.isOpen h) d = (.ok (.flag false), d)
  perform : ∀ op, call (.perform h op) d = (.error (.badHandle h), d)
  close : call (.close h) d = (.error (.badHandle h), d)
  /-- A guest that does not show its memory can only close. -/
  guest : ∀ (g : Guest) (c : GuestCall), c.handle? = some h →
    g.call c d = (if g.showsMemory = true ∨ c = .close h then .code .badHandle
      else .trap "guest does not export memory", g, d)

theorem dead_of_not_mem_live (hh : h ∉ d.live) : d.Dead h := by
  have hclosed : d.isOpen h = false := Bool.eq_false_of_not_eq_true hh
  have hget := HandleTable.contains_eq_false_iff.mp hclosed
  have hclose := GuestCall.close_of_closed hclosed
  refine ⟨by rw [call, hclosed], fun op => ?_, hclose, fun g c hc => ?_⟩
  · rw [call, perform, HandleTable.lookup_of_get?_none hget]
  · by_cases hcl : c = .close h
    · rw [if_pos (.inr hcl), hcl, guest_close, hclose]
      rfl
    · obtain ⟨m, shows⟩ := g
      cases shows with
      | true =>
        have hrun : c.run m d = (.badHandle, m, d) := GuestCall.run_of_closed hc hclosed
        have hcall : (⟨m, true⟩ : Guest).call c d =
            (.code (c.run m d).1, ⟨(c.run m d).2.1, true⟩, (c.run m d).2.2) := rfl
        rw [if_pos (.inl rfl), hcall, hrun]
      | false =>
        rw [if_neg (by simp [hcl])]
        cases c with
        | close k =>
          cases hc
          exact absurd rfl hcl
        | _ => rfl

end Driver

open Driver Overlap

variable {W C : Type} [Connection C]

/-- A handle that is not live is none to anybody until an open returns it, whatever the host and its
guests do in between, one act after another or in calls that overlap. The opens return the handles
in the order of their numbers, so that none comes again before all of them have come. -/
theorem dead_handles_stay_dead (config : Config) (backends : List (Backend W C)) (world : W) :
    (∀ (acts later : List Driver.Act) (h : Handle),
      let d := (Act.takeAll acts (.new config backends world)).2
      h ∉ d.live → (∀ e ∈ (Act.takeAll later d).1, e.issued? ≠ some h) →
        (Act.takeAll later d).2.Dead h) ∧
      (∀ acts : List Driver.Act,
        let issued := (Act.takeAll acts (.new config backends world)).1.filterMap Entry.issued?
        issued.length ≤ 2147483647 → HandleTable.InOrder issued ∧ issued.Nodup) ∧
      (∀ (log : List Event) (m : Machine W C), Logged config backends world log m →
        (∀ (h : Handle) (es : List Event) (m' : Machine W C), m.table.contains h = false →
          Continues m es m' → (∀ e ∈ es, e.handle? ≠ some h) → m'.Dead h) ∧
        (let issued := log.filterMap Event.handle?
        issued.length ≤ 2147483647 → HandleTable.InOrder issued ∧ issued.Nodup)) ∧
      ResultCode.badHandle.value = -1 := by
  have hb : (Driver.new config backends world).table.Bounded _ :=
    HandleTable.bounded_new config.maxHandles
  refine ⟨fun acts later h hh hlater => ?_, fun acts hissued => ?_,
    fun log m hm => ⟨fun h es m' hh hc hes => ?_, fun hissued => ?_⟩, rfl⟩
  · exact dead_of_not_mem_live (Act.not_mem_live_takeAll (Act.bounded_takeAll hb acts) hh hlater)
  · have hissues := Act.issues_takeAll hb (.new config.maxHandles) acts
    obtain ⟨horder, -⟩ := hissues hissued
    exact ⟨horder, horder.nodup⟩
  · exact Machine.dead_of_contains (hc.contains_eq_false hh hes)
  · obtain ⟨horder, -⟩ := hm.issues hissued
    exact ⟨horder, horder.nodup⟩

namespace Leftover

open Scripted

def backends : List (Backend Tallies Link) := [(Script.plain [1, 2]).backend "0"]

def acts : List Driver.Act := [.host (.openTarget "a" ""), .host (.close 1)]

/-- Another open in between, by a guest, and all handles closed. -/
def later : List Driver.Act :=
  [.guest ⟨.ofBytes [97, 0, 0, 0, 0, 0, 0, 0], true⟩ (.openTarget 0 1 1 0 4), .host .closeAll,
    .host (.openTarget "a" "")]

theorem dead_handles_stay_dead_of_acts :
    let d := (Act.takeAll acts (.new .default backends [])).2
    1 ∉ d.live ∧ (∀ e ∈ (Act.takeAll later d).1, e.issued? ≠ some 1) ∧
      (Act.takeAll later d).2.Dead 1 ∧
      (Act.takeAll (acts ++ later) (.new .default backends [])).1.filterMap Entry.issued? =
        [1, 2, 3] := by
  intro d
  have hclosed : d.isOpen 1 = false := by decide +kernel
  have hh : 1 ∉ d.live := by simp [Driver.live, hclosed]
  have hlater : ∀ e ∈ (Act.takeAll later d).1, e.issued? ≠ some 1 := by
    have hissued : (Act.takeAll later d).1.map Entry.issued? = [some 2, none, some 3] := by
      decide +kernel
    intro e he hk
    have hmem : some 1 ∈ (Act.takeAll later d).1.map Entry.issued? := hk ▸ List.mem_map_of_mem he
    rw [hissued] at hmem
    simp at hmem
  exact ⟨hh, hlater, (dead_handles_stay_dead .default backends []).1 acts later 1 hh hlater,
    by decide +kernel⟩

end Leftover
end GuestNet
