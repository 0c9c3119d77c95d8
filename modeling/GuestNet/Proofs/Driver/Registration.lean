import Mathlib.Data.List.Induction
import GuestNet.Proofs.Access.Decision

/-! What an open has to pass before a backend is asked. Backends are registered one after the other,
each for all of its schemes, and take schemes over from those before them. -/
namespace GuestNet

variable {W C : Type} {b c : Backend W C} {backends : List (Backend W C)} {scheme raw : String}

/-- Whether a backend serves a scheme does not depend on the case in which either is written. -/
def Backend.Serves (b : Backend W C) (scheme : String) : Prop :=
  ∃ s ∈ b.schemes, Registry.lowerCase s = Registry.lowerCase scheme

instance : Decidable (b.Serves scheme) :=
  inferInstanceAs (Decidable (∃ s ∈ b.schemes, Registry.lowerCase s = Registry.lowerCase scheme))

/-- Of the backends that serve a scheme, the one that was registered last. -/
def LastServing (backends : List (Backend W C)) (scheme : String) (b : Backend W C) : Prop :=
  ∃ earlier later, backends = earlier ++ b :: later ∧ b.Serves scheme ∧
    ∀ c ∈ later, ¬ c.Serves scheme

theorem LastServing.mem (h : LastServing backends scheme b) : b ∈ backends := by
  obtain ⟨earlier, later, rfl, -, -⟩ := h
  simp

theorem lastServing_concat_of_serves (h : b.Serves scheme) :
    LastServing (backends ++ [b]) scheme c ↔ b = c := by
  constructor
  · rintro ⟨earlier, later, he, -, hl⟩
    rcases later.eq_nil_or_concat with rfl | ⟨later, d, rfl⟩
    · exact (List.append_singleton_inj.mp he).2
    · rw [List.concat_eq_append, ← List.cons_append, ← List.append_assoc] at he
      cases (List.append_singleton_inj.mp he).2
      exact absurd h (hl b (by simp))
  · rintro rfl
    exact ⟨backends, [], rfl, h, by simp⟩

theorem lastServing_concat_of_not_serves (h : ¬ b.Serves scheme) :
    LastServing (backends ++ [b]) scheme c ↔ LastServing backends scheme c := by
  constructor
  · rintro ⟨earlier, later, he, hc, hl⟩
    rcases later.eq_nil_or_concat with rfl | ⟨later, d, rfl⟩
    · cases (List.append_singleton_inj.mp he).2
      exact absurd hc h
    · rw [List.concat_eq_append, ← List.cons_append, ← List.append_assoc] at he
      exact ⟨earlier, later, (List.append_singleton_inj.mp he).1, hc, fun e hm => hl e (by simp [hm])⟩
  · rintro ⟨earlier, later, rfl, hc, hl⟩
    refine ⟨earlier, later ++ [b], by simp, hc, fun e hm => ?_⟩
    rcases List.mem_append.mp hm with hm | hm
    · exact hl e hm
    · rwa [List.mem_singleton.mp hm]

namespace Registry

theorem find?_insert (r : Registry W C) (key : String) (b : Backend W C) (scheme : String) :
    find? (r.insert key b) scheme = if key = scheme then some b else r.find? scheme := by
  simp only [find?, Std.TreeMap.getElem?_insert, Std.LawfulEqCmp.compare_eq_iff_eq]

/-- A backend takes over all of its schemes, and no other one. -/
theorem find?_register (r : Registry W C) (b : Backend W C) (scheme : String) :
    (r.register b).find? (lowerCase scheme) =
      if b.Serves scheme then some b else r.find? (lowerCase scheme) := by
  have hfold (schemes : List String) (r : Registry W C) :
      find? (schemes.foldl (fun r s => r.insert (lowerCase s) b) r) (lowerCase scheme) =
        if ∃ s ∈ schemes, lowerCase s = lowerCase scheme then some b
        else r.find? (lowerCase scheme) := by
    induction schemes generalizing r with
    | nil => simp
    | cons s rest ih =>
      rw [List.foldl_cons, ih, find?_insert]
      by_cases hs : lowerCase s = lowerCase scheme
      · simp [hs]
      · simp [hs]
  exact hfold b.schemes r

theorem ofBackends_concat (backends : List (Backend W C)) (b : Backend W C) :
    ofBackends (backends ++ [b]) = (ofBackends backends).register b := by
  rw [ofBackends, List.foldl_append, List.foldl_cons, List.foldl_nil, ofBackends]

theorem find?_ofBackends_eq_some_iff :
    (ofBackends backends).find? (lowerCase scheme) = some b ↔ LastServing backends scheme b := by
  -- from the end, since a backend is asked for its schemes before those that came earlier
  induction backends using List.reverseRecOn with
  | nil =>
    refine iff_of_false (by simp [ofBackends, find?]) fun h => ?_
    cases h.mem
  | append_singleton rest c ih =>
    rw [ofBackends_concat, find?_register]
    split
    · rename_i hc
      rw [Option.some.injEq, lastServing_concat_of_serves hc]
    · rename_i hc
      rw [ih, lastServing_concat_of_not_serves hc]

theorem find?_ofBackends_eq_none_iff :
    (ofBackends backends).find? (lowerCase scheme) = none ↔ ∀ b ∈ backends, ¬ b.Serves scheme := by
  induction backends using List.reverseRecOn with
  | nil => simp [ofBackends, find?]
  | append_singleton rest c ih =>
    rw [ofBackends_concat, find?_register]
    split
    · rename_i hc
      refine iff_of_false nofun fun h => h c (by simp) hc
    · rename_i hc
      rw [ih]
      refine ⟨fun h b hb => ?_, fun h b hb => h b (List.mem_append_left [c] hb)⟩
      rcases List.mem_append.mp hb with hb | hb
      · exact h b hb
      · rwa [List.mem_singleton.mp hb]

end Registry

/-- The scheme as it is written in a target, where one is. -/
def Target.writtenScheme (raw : String) : String :=
  let text := Text.trim raw.toList
  match splitScheme? text with
  | some (scheme, _) => String.ofList scheme
  | none =>
    if text.head? = some '/' then String.ofList ((pieces text).headD []) else streamScheme

theorem Target.scheme_of_parse {t : Target} (h : parse raw = .ok t) :
    t.scheme = Registry.lowerCase (writtenScheme raw) := by
  rw [parse] at h
  rw [writtenScheme, Registry.lowerCase]
  generalize Text.trim raw.toList = text at h ⊢
  cases hs : splitScheme? text with
  | some parts =>
    simp only [hs, ofUrlText] at h
    split at h
    · cases h
    · split at h
      · cases h
      · cases h
        simp
  | none =>
    simp only [hs] at h
    split at h
    · cases h
    · simp only [ofPathText] at h
      split at h
      · cases h
      · cases h
      · rename_i hp
        cases h
        simp [hp]
    · rename_i hne
      cases h
      rw [if_neg]
      · rfl
      · intro hh
        exact hne _ (List.head?_eq_some_iff.mp hh).choose_spec

/-- What an open comes to before a backend is asked: the first that is wanting decides. Where `live`
handles are in use and nothing is wanting, a backend is asked for a target. -/
inductive Screened (config : Config) (backends : List (Backend W C)) (live : Nat) (raw : String) :
    Except DriverError (Target × Backend W C) → Prop where
  | notATarget {e : TargetError} : Target.parse raw = .error e →
      Screened config backends live raw (.error (.badParams e.message))
  | noBackend {t : Target} : Target.parse raw = .ok t →
      (∀ b ∈ backends, ¬ b.Serves (Target.writtenScheme raw)) →
        Screened config backends live raw
          (.error (.driverNotFound (Registry.lowerCase (Target.writtenScheme raw))))
  | notPermitted {t : Target} {b : Backend W C} : Target.parse raw = .ok t →
      LastServing backends (Target.writtenScheme raw) b →
        (AccessPolicy.ofEntries config.allowedTargets).isPermitted t = false →
          Screened config backends live raw (.error (.permissionDenied t.raw))
  | noRoom {t : Target} {b : Backend W C} : Target.parse raw = .ok t →
      LastServing backends (Target.writtenScheme raw) b →
        (AccessPolicy.ofEntries config.allowedTargets).isPermitted t = true →
          min config.maxHandles Handle.greatest.toNat ≤ live →
            Screened config backends live raw
              (.error (.tooManyHandles (min config.maxHandles Handle.greatest.toNat)))
  | passed {t : Target} {b : Backend W C} : Target.parse raw = .ok t →
      LastServing backends (Target.writtenScheme raw) b →
        (AccessPolicy.ofEntries config.allowedTargets).isPermitted t = true →
          live < min config.maxHandles Handle.greatest.toNat →
            Screened config backends live raw (.ok (t, b))

variable {α : Type} {config : Config} {table : HandleTable α}
  {r : Except DriverError (Target × Backend W C)}

theorem Setup.backendFor_eq_ok_iff {s : Setup W C} {t : Target} :
    s.backendFor table raw = .ok (t, b) ↔
      Target.parse raw = .ok t ∧ s.registry.find? t.scheme = some b ∧
        s.policy.isPermitted t = true ∧ table.isFull = false := by
  constructor
  · intro h
    rw [backendFor] at h
    split at h
    · cases h
    · rename_i ht
      split at h
      · cases h
      · rename_i hb
        split at h
        · cases h
        · rename_i hp
          split at h
          · cases h
          · rename_i hf
            cases h
            exact ⟨ht, hb, AccessPolicy.check_eq_ok_iff.mp hp, eq_false_of_ne_true hf⟩
  · rintro ⟨ht, hb, hp, hf⟩
    simp [backendFor, ht, hb, AccessPolicy.check_eq_ok_iff.mpr hp, hf]

theorem find?_scheme_eq_some_iff {t : Target} (ht : Target.parse raw = .ok t) :
    (Registry.ofBackends backends).find? t.scheme = some b ↔
      LastServing backends (Target.writtenScheme raw) b := by
  rw [Target.scheme_of_parse ht, Registry.find?_ofBackends_eq_some_iff]

theorem find?_scheme_eq_none_iff {t : Target} (ht : Target.parse raw = .ok t) :
    (Registry.ofBackends backends).find? t.scheme = none ↔
      ∀ b ∈ backends, ¬ b.Serves (Target.writtenScheme raw) := by
  rw [Target.scheme_of_parse ht, Registry.find?_ofBackends_eq_none_iff]

theorem screened_backendFor (hc : table.capacity = min config.maxHandles Handle.greatest.toNat) :
    Screened config backends table.size raw ((Setup.new config backends).backendFor table raw) := by
  simp only [Setup.backendFor, Setup.new, AccessPolicy.check, HandleTable.isFull, hc,
    decide_eq_true_eq]
  cases ht : Target.parse raw with
  | error e => exact .notATarget ht
  | ok t =>
    simp only
    cases hb : (Registry.ofBackends backends).find? t.scheme with
    | none =>
      rw [Target.scheme_of_parse ht]
      exact .noBackend ht ((find?_scheme_eq_none_iff ht).mp hb)
    | some b =>
      have hl := (find?_scheme_eq_some_iff ht).mp hb
      rcases Bool.eq_false_or_eq_true
        ((AccessPolicy.ofEntries config.allowedTargets).isPermitted t) with hp | hp
      · by_cases hf : min config.maxHandles Handle.greatest.toNat ≤ table.size
        · simp only [hp, if_true, if_pos hf]
          exact .noRoom ht hl hp hf
        · simp only [hp, if_true, if_neg hf]
          exact .passed ht hl hp (Nat.lt_of_not_le hf)
      · simp only [hp, Bool.false_eq_true, if_false]
        exact .notPermitted ht hl hp

/-- A driver takes what can be wanting in that order. -/
theorem screened_iff (hc : table.capacity = min config.maxHandles Handle.greatest.toNat) :
    Screened config backends table.size raw r ↔
      r = (Setup.new config backends).backendFor table raw := by
  refine ⟨fun hr => ?_, fun hr => hr ▸ screened_backendFor hc⟩
  simp only [Setup.backendFor, Setup.new, AccessPolicy.check, HandleTable.isFull, hc,
    decide_eq_true_eq]
  cases hr with
  | notATarget ht => rw [ht]
  | noBackend ht hn =>
    rw [ht, ← Target.scheme_of_parse ht]
    simp only [(find?_scheme_eq_none_iff ht).mpr hn]
  | notPermitted ht hl hp => simp [ht, (find?_scheme_eq_some_iff ht).mpr hl, hp]
  | noRoom ht hl hp hf =>
    simp only [ht, (find?_scheme_eq_some_iff ht).mpr hl, hp, if_true, if_pos hf]
  | passed ht hl hp hf =>
    simp only [ht, (find?_scheme_eq_some_iff ht).mpr hl, hp, if_true, if_neg (Nat.not_le.mpr hf)]

end GuestNet
