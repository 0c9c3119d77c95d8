import Mathlib.Logic.Relation
import GuestNet.Proofs.Access.Allowlist

/-! What an allow-list decides. Entries count as a set, and only those that are not blank: an entry
that is no rule admits nothing, but where it is the only one, nothing is admitted at all. -/
namespace GuestNet

namespace Text

theorem trimStart_append_of_all {front : List Char} (hf : front.all isBlank = true)
    (s : List Char) : trimStart (front ++ s) = trimStart s :=
  List.dropWhile_append_of_pos (List.all_eq_true.mp hf)

theorem trimEnd_append_of_all {back : List Char} (hb : back.all isBlank = true)
    (s : List Char) : trimEnd (s ++ back) = trimEnd s := by
  have hback : back.reverse.all isBlank = true := by rwa [List.all_reverse]
  rw [trimEnd, trimEnd, List.reverse_append]
  exact congrArg List.reverse (trimStart_append_of_all hback s.reverse)

/-- White space around a text does not count. -/
theorem trim_padded {front back : List Char} (hf : front.all isBlank = true)
    (hb : back.all isBlank = true) (s : List Char) : trim (front ++ s ++ back) = trim s := by
  have hstart : trim (front ++ s ++ back) = trimEnd (trimStart (s ++ back)) := by
    rw [trim, List.append_assoc, trimStart_append_of_all hf]
  rw [hstart]
  rcases trimStart_cases s with ⟨hs, hall⟩ | ⟨c, rest, hs, -, -⟩
  · have hnil : trim (s ++ back) = [] := by
      rw [trim_eq_nil_iff, List.all_append, hall, hb]
      rfl
    exact hnil.trans ((trim_eq_nil_iff s).mpr hall).symm
  · have happ : trimStart (s ++ back) = trimStart s ++ back := by
      have hne : trimStart s ≠ [] := by
        rw [hs]
        exact List.cons_ne_nil c rest
      rw [trimStart, List.dropWhile_append, if_neg (by simpa [trimStart] using hne)]
      rfl
    rw [happ, trimEnd_append_of_all hb]
    rfl

end Text

theorem toOption_eq_some_iff {ε α : Type} {x : Except ε α} {a : α} :
    x.toOption = some a ↔ x = .ok a := by
  cases x <;> simp [Except.toOption]

namespace AccessPolicy

variable {p : AccessPolicy} {t : Target} {list list' : List String} {r : Endpoint}

theorem isPermitted_iff : p.isPermitted t = true ↔ p.isUnrestricted = true ∨
    ∃ e, Endpoint.ofTarget t = .ok e ∧ ∃ r ∈ p.rules, r.admits e = true := by
  rw [isPermitted, Bool.or_eq_true]
  cases Endpoint.ofTarget t with
  | error e => simp
  | ok e => simp

/-- A list has a rule where an entry that is not blank can be read as that rule. -/
def HasRule (list : List String) (r : Endpoint) : Prop :=
  ∃ e ∈ listed list, Endpoint.parseRule e = .ok r

theorem mem_rules_ofEntries_iff : r ∈ (ofEntries list).rules ↔ HasRule list r := by
  rw [rules_ofEntries, List.mem_filterMap]
  exact exists_congr fun e => and_congr_right fun _ => toOption_eq_some_iff

theorem isPermitted_ofEntries_iff : (ofEntries list).isPermitted t = true ↔ listed list = [] ∨
    ∃ e, Endpoint.ofTarget t = .ok e ∧ ∃ r, HasRule list r ∧ r.admits e = true := by
  rw [isPermitted_iff, isUnrestricted_ofEntries_iff]
  simp only [mem_rules_ofEntries_iff]

/-- Only the set of rules counts, and whether there are entries at all. -/
theorem isPermitted_congr (hlisted : listed list = [] ↔ listed list' = [])
    (hrules : ∀ r, HasRule list r ↔ HasRule list' r) (t : Target) :
    (ofEntries list).isPermitted t = (ofEntries list').isPermitted t := by
  rw [Bool.eq_iff_iff, isPermitted_ofEntries_iff, isPermitted_ofEntries_iff, hlisted]
  simp only [hrules]

theorem HasRule.mono (hsub : list ⊆ list') (hr : HasRule list r) : HasRule list' r := by
  obtain ⟨e, he, hr⟩ := hr
  rw [listed, List.mem_filter] at he
  exact ⟨e, List.mem_filter.mpr ⟨hsub he.1, he.2⟩, hr⟩

theorem hasRule_congr (h : ∀ e, e ∈ list ↔ e ∈ list') (r : Endpoint) :
    HasRule list r ↔ HasRule list' r :=
  ⟨.mono fun e he => (h e).mp he, .mono fun e he => (h e).mpr he⟩

theorem listed_eq_nil_iff : listed list = [] ↔ ∀ e ∈ list, Text.isAllBlank e = true := by
  rw [listed, List.filter_eq_nil_iff]
  simp

theorem hasRule_cons {e : String} : HasRule (e :: list) r ↔
    (Text.isAllBlank e = false ∧ Endpoint.parseRule e = .ok r) ∨ HasRule list r := by
  simp [HasRule, listed, List.mem_filter, or_and_right, exists_or, and_assoc]

/-- A text with more white space at its ends. -/
def padded (front back : List Char) (e : String) : String :=
  String.ofList (front ++ e.toList ++ back)

theorem isAllBlank_padded {front back : List Char} (hf : front.all Text.isBlank = true)
    (hb : back.all Text.isBlank = true) (e : String) :
    Text.isAllBlank (padded front back e) = Text.isAllBlank e := by
  rw [Text.isAllBlank, padded, String.toList_ofList, List.all_append, List.all_append, hf, hb,
    Bool.true_and, Bool.and_true]
  rfl

theorem parseRule_padded_eq_ok_iff {front back : List Char} (hf : front.all Text.isBlank = true)
    (hb : back.all Text.isBlank = true) (e : String) :
    Endpoint.parseRule (padded front back e) = .ok r ↔ Endpoint.parseRule e = .ok r := by
  have htrim : Text.trim (padded front back e).toList = Text.trim e.toList := by
    rw [padded, String.toList_ofList, Text.trim_padded hf hb]
  rw [← toOption_eq_some_iff, Endpoint.toOption_parseRule, Target.toOption_parse_congr htrim,
    ← Endpoint.toOption_parseRule, toOption_eq_some_iff]

/-- Changes of an allow-list that do not matter. -/
inductive Edit : List String → List String → Prop where
  | reorder {list list' : List String} : list.Perm list' → Edit list list'
  | repeated {list : List String} {e : String} : e ∈ list → Edit list (e :: list)
  | blank {e : String} (list : List String) : Text.isAllBlank e = true → Edit list (e :: list)
  | spaces {front back : List Char} (e : String) (list : List String) :
      front.all Text.isBlank = true → back.all Text.isBlank = true →
        Edit (e :: list) (padded front back e :: list)
  /-- An entry that is no rule, beside others. -/
  | unreadable {list : List String} {e : String} {error : EndpointError} : listed list ≠ [] →
      Endpoint.parseRule e = .error error → Edit list (e :: list)

namespace Edit

theorem listed_iff (h : Edit list list') : listed list = [] ↔ listed list' = [] := by
  cases h with
  | reorder hp => simp only [listed_eq_nil_iff, hp.mem_iff]
  | repeated he =>
    rw [listed_eq_nil_iff, listed_eq_nil_iff, List.forall_mem_cons]
    exact ⟨fun h => ⟨h _ he, h⟩, And.right⟩
  | blank list hb => simp only [listed_eq_nil_iff, List.forall_mem_cons, hb, true_and]
  | spaces e list hf hb =>
    simp only [listed_eq_nil_iff, List.forall_mem_cons, isAllBlank_padded hf hb]
  | unreadable hne =>
    refine iff_of_false hne fun h => hne (listed_eq_nil_iff.mpr ?_)
    exact (List.forall_mem_cons.mp (listed_eq_nil_iff.mp h)).2

theorem hasRule_iff (h : Edit list list') (r : Endpoint) : HasRule list r ↔ HasRule list' r := by
  cases h with
  | reorder hp => exact hasRule_congr (fun e => hp.mem_iff) r
  | repeated he =>
    refine hasRule_congr (fun e => ⟨List.mem_cons_of_mem _, fun hm => ?_⟩) r
    rcases List.mem_cons.mp hm with rfl | hm
    · exact he
    · exact hm
  | blank list hb => simp [hasRule_cons, hb]
  | spaces e list hf hb =>
    rw [hasRule_cons, hasRule_cons, isAllBlank_padded hf hb, parseRule_padded_eq_ok_iff hf hb]
  | unreadable _ he => simp [hasRule_cons, he]

theorem isPermitted_eq (h : Edit list list') (t : Target) :
    (ofEntries list').isPermitted t = (ofEntries list).isPermitted t :=
  (isPermitted_congr h.listed_iff h.hasRule_iff t).symm

end Edit

theorem isPermitted_of_edits (h : Relation.ReflTransGen Edit list list') (t : Target) :
    (ofEntries list').isPermitted t = (ofEntries list).isPermitted t := by
  induction h with
  | refl => rfl
  | tail _ he ih => exact (he.isPermitted_eq t).trans ih

theorem check_eq_ok_iff : p.check t = .ok () ↔ p.isPermitted t = true := by
  rw [check]
  cases p.isPermitted t <;> simp

theorem check_eq_error_iff {e : DriverError} :
    p.check t = .error e ↔ p.isPermitted t = false ∧ e = .permissionDenied t.raw := by
  rw [check]
  cases p.isPermitted t <;> simp [eq_comm]

/-- A target is permitted where there are no entries, or where one of them is a rule that admits it.
So what does not change the set of rules changes no decision, more entries than one never permit
less, and entries without a rule among them permit nothing. -/
theorem decision_of_rules (list : List String) (t : Target) :
    ((ofEntries list).isPermitted t = true ↔ listed list = [] ∨
        ∃ e, Endpoint.ofTarget t = .ok e ∧
          ∃ entry ∈ listed list, ∃ r, Endpoint.parseRule entry = .ok r ∧ r.admits e = true) ∧
      ((ofEntries list).check t = .ok () ↔ (ofEntries list).isPermitted t = true) ∧
      (∀ error, (ofEntries list).check t = .error error ↔
        (ofEntries list).isPermitted t = false ∧ error = .permissionDenied t.raw) ∧
      (∀ list', Relation.ReflTransGen Edit list list' →
        (ofEntries list').isPermitted t = (ofEntries list).isPermitted t) ∧
      (∀ list', listed list ≠ [] → list ⊆ list' → (ofEntries list).isPermitted t = true →
        (ofEntries list').isPermitted t = true) ∧
      (listed list ≠ [] → (∀ entry ∈ listed list, ∀ r, Endpoint.parseRule entry ≠ .ok r) →
        (ofEntries list).isPermitted t = false) := by
  refine ⟨?_, check_eq_ok_iff, fun error => check_eq_error_iff,
    fun list' h => isPermitted_of_edits h t, fun list' hne hsub hp => ?_, fun hne hnone => ?_⟩
  · rw [isPermitted_ofEntries_iff]
    simp only [HasRule]
    refine or_congr_right (exists_congr fun e => and_congr_right fun _ => ?_)
    constructor
    · rintro ⟨r, ⟨entry, hentry, hr⟩, ha⟩
      exact ⟨entry, hentry, r, hr, ha⟩
    · rintro ⟨entry, hentry, r, hr, ha⟩
      exact ⟨r, ⟨entry, hentry, hr⟩, ha⟩
  · rw [isPermitted_ofEntries_iff] at hp ⊢
    obtain ⟨e, he, r, hr, ha⟩ := hp.resolve_left hne
    exact .inr ⟨e, he, r, hr.mono hsub, ha⟩
  · rw [Bool.eq_false_iff, ne_eq, isPermitted_ofEntries_iff, not_or]
    refine ⟨hne, ?_⟩
    rintro ⟨e, -, r, ⟨entry, hentry, hr⟩, -⟩
    exact hnone entry hentry r hr

/-- A blank entry, one with a path and spaces around the rule change nothing; another rule takes
nothing away; and an entry without an address, by itself, closes the list. -/
theorem decision_of_rules_for_stream :
    let t : Target := ⟨"tcp", "127.0.0.1:7000", "127.0.0.1:7000"⟩
    let edited := [" ", "tcp://127.0.0.1:7000/x", " tcp://127.0.0.1:7000 "]
    Relation.ReflTransGen Edit ["tcp://127.0.0.1:7000"] edited ∧
      (ofEntries edited).isPermitted t = true ∧
      (ofEntries ["tcp://127.0.0.1:7001", "tcp://127.0.0.1:7000"]).isPermitted t = true ∧
      (ofEntries ["tcp://"]).isPermitted t = false := by
  intro t edited
  have hedits : Relation.ReflTransGen Edit ["tcp://127.0.0.1:7000"] edited := by
    have hpadded : padded [' '] [' '] "tcp://127.0.0.1:7000" = " tcp://127.0.0.1:7000 " := by
      decide
    have hspaces : Edit ["tcp://127.0.0.1:7000"] [padded [' '] [' '] "tcp://127.0.0.1:7000"] :=
      .spaces _ [] (by decide) (by decide)
    rw [hpadded] at hspaces
    have hunreadable : Edit [" tcp://127.0.0.1:7000 "]
        ["tcp://127.0.0.1:7000/x", " tcp://127.0.0.1:7000 "] := by
      have hread : Endpoint.parseRule "tcp://127.0.0.1:7000/x" =
          .error (.notHostPort "127.0.0.1:7000/x") := by decide +kernel
      exact .unreadable (by decide +kernel) hread
    exact .tail (.tail (.single hspaces) hunreadable) (.blank _ (by decide))
  obtain ⟨hiff, -, -, hedit, hmore, -⟩ := decision_of_rules ["tcp://127.0.0.1:7000"] t
  have hlisted : listed ["tcp://127.0.0.1:7000"] = ["tcp://127.0.0.1:7000"] := by decide +kernel
  have hrule : Endpoint.parseRule "tcp://127.0.0.1:7000" =
      .ok ⟨"tcp", "127.0.0.1", some 7000, ""⟩ := by decide +kernel
  have hpermitted : (ofEntries ["tcp://127.0.0.1:7000"]).isPermitted t = true := by
    refine hiff.mpr (.inr ⟨⟨"tcp", "127.0.0.1", some 7000, ""⟩, by decide +kernel, ?_⟩)
    rw [hlisted]
    exact ⟨_, List.mem_cons_self, _, hrule, by decide⟩
  refine ⟨hedits, (hedit edited hedits).trans hpermitted,
    hmore _ (by simp [hlisted]) (List.subset_cons_self _ _) hpermitted, ?_⟩
  refine (decision_of_rules ["tcp://"] t).2.2.2.2.2 (by decide +kernel) fun entry hentry r hr => ?_
  have hlisted : listed ["tcp://"] = ["tcp://"] := by decide +kernel
  rw [hlisted, List.mem_singleton] at hentry
  have hread : Endpoint.parseRule "tcp://" = .error (.target (.noAddress "tcp://")) := by
    decide +kernel
  rw [hentry, hread] at hr
  cases hr

end AccessPolicy
end GuestNet
