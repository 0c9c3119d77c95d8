import Mathlib.Data.List.DropRight
import Mathlib.Tactic.SplitIfs
import GuestNet.Driver

/-! What the check of a configuration means for the driver that is built from it. Entries of the
allow-list are checked as they stand and become rules without white space at their ends; both give
the same endpoints, so that a configuration which passes is obeyed to the letter. -/
namespace GuestNet

namespace Text

theorem trimStart_cases (s : List Char) :
    (trimStart s = [] ∧ s.all isBlank = true) ∨
      ∃ c rest, trimStart s = c :: rest ∧ isBlank c = false ∧ s.all isBlank = false := by
  rw [trimStart]
  cases h : s.dropWhile isBlank with
  | nil => exact .inl ⟨rfl, List.all_eq_true.mpr (List.dropWhile_eq_nil_iff.mp h)⟩
  | cons c rest =>
    have hc : isBlank c = false := by
      have hne : s.dropWhile isBlank ≠ [] := by
        rw [h]
        exact List.cons_ne_nil c rest
      have hhead := List.head_dropWhile_not isBlank hne
      simpa only [h, List.head_cons] using hhead
    have hmem : c ∈ s := by
      have hsuffix : s.dropWhile isBlank <:+ s := List.dropWhile_suffix isBlank
      rw [h] at hsuffix
      exact hsuffix.mem List.mem_cons_self
    exact .inr ⟨c, rest, rfl, hc, List.all_eq_false.mpr ⟨c, hmem, by simp [hc]⟩⟩

theorem trimEnd_cons {c : Char} (hc : isBlank c = false) (rest : List Char) :
    ∃ kept, trimEnd (c :: rest) = c :: kept := by
  have hprefix : trimEnd (c :: rest) <+: c :: rest := List.rdropWhile_prefix isBlank _
  rcases List.prefix_cons_iff.mp hprefix with h | ⟨kept, h, -⟩
  · have hall := List.rdropWhile_eq_nil_iff.mp h c List.mem_cons_self
    simp [hc] at hall
  · exact ⟨kept, h⟩

theorem trim_trim (s : List Char) : trim (trim s) = trim s := by
  rcases trimStart_cases s with ⟨hstart, -⟩ | ⟨c, rest, hstart, hc, -⟩
  · rw [trim, trim, hstart]
    rfl
  · obtain ⟨kept, hkept⟩ := trimEnd_cons hc rest
    have hself : trimStart (trim s) = trim s := by
      rw [trim, hstart, hkept, trimStart_cons_of_not_isBlank hc]
    rw [trim, hself]
    exact List.rdropWhile_idempotent isBlank (trimStart s)

theorem trim_eq_nil_iff (s : List Char) : trim s = [] ↔ s.all isBlank = true := by
  rcases trimStart_cases s with ⟨hstart, hall⟩ | ⟨c, rest, hstart, hc, hall⟩
  · rw [trim, hstart]
    exact iff_of_true rfl hall
  · obtain ⟨kept, hkept⟩ := trimEnd_cons hc rest
    rw [trim, hstart, hkept, hall]
    exact iff_of_false (List.cons_ne_nil c kept) Bool.false_ne_true

end Text

namespace Target

/-- White space at the ends of a text shows in errors only. -/
theorem toOption_parse_congr {raw raw' : String}
    (h : Text.trim raw.toList = Text.trim raw'.toList) :
    (parse raw).toOption = (parse raw').toOption := by
  have hurl (text scheme rest : List Char) : (ofUrlText raw text scheme rest).toOption =
      (ofUrlText raw' text scheme rest).toOption := by
    unfold ofUrlText
    dsimp only
    split_ifs <;> rfl
  have hpath (text : List Char) :
      (ofPathText raw text).toOption = (ofPathText raw' text).toOption := by
    unfold ofPathText
    split <;> rfl
  rw [parse, parse, h]
  generalize Text.trim raw'.toList = text
  cases splitScheme? text with
  | some parts => exact hurl text parts.1 parts.2
  | none =>
    dsimp only
    split
    · rfl
    · exact hpath _
    · rfl

end Target

theorem Endpoint.toOption_parseRule (text : String) :
    (parseRule text).toOption =
      (Target.parse text).toOption.bind fun t => (ofTarget t).toOption := by
  rw [parseRule]
  cases Target.parse text with
  | error e => rfl
  | ok t => simp only [Except.toOption, Option.bind_some]

namespace AccessPolicy

/-- The entries that are not blank. -/
def listed (list : List String) : List String := list.filter fun e => !Text.isAllBlank e

def trimmed (e : String) : String := String.ofList (Text.trim e.toList)

theorem trimmed_eq_empty_iff (e : String) : trimmed e = "" ↔ Text.isAllBlank e = true := by
  rw [trimmed, Text.isAllBlank, ← Text.trim_eq_nil_iff, String.ofList_eq_empty_iff]

theorem entries_eq_map_listed (list : List String) :
    entries list = (listed list).map trimmed := by
  have hblank : (fun e : String => !Text.isAllBlank e) = (fun e => decide (e ≠ "")) ∘ trimmed := by
    funext e
    cases h : Text.isAllBlank e <;> simp [trimmed_eq_empty_iff, h]
  rw [entries, listed, hblank]
  exact List.filter_map

theorem toOption_parseRule_trimmed (e : String) :
    (Endpoint.parseRule (trimmed e)).toOption = (Endpoint.parseRule e).toOption := by
  have htrim : Text.trim (trimmed e).toList = Text.trim e.toList := by
    rw [trimmed, String.toList_ofList, Text.trim_trim]
  rw [Endpoint.toOption_parseRule, Endpoint.toOption_parseRule,
    Target.toOption_parse_congr htrim]

/-- An entry is a rule as it stands just if it is one without white space at its ends. -/
theorem isRule_trimmed_iff (e : String) :
    (∃ r, Endpoint.parseRule (trimmed e) = .ok r) ↔ ∃ r, Endpoint.parseRule e = .ok r := by
  have h := toOption_parseRule_trimmed e
  cases h₁ : Endpoint.parseRule (trimmed e) <;> cases h₂ : Endpoint.parseRule e <;>
    simp_all [Except.toOption]

theorem rules_ofEntries (list : List String) :
    (ofEntries list).rules = (listed list).filterMap fun e => (Endpoint.parseRule e).toOption := by
  have hread : (fun e => (Endpoint.parseRule e).toOption) ∘ trimmed =
      fun e => (Endpoint.parseRule e).toOption := by
    funext e
    rw [Function.comp_apply, toOption_parseRule_trimmed]
  simp only [ofEntries, entries_eq_map_listed, List.filterMap_map, hread]

theorem isUnrestricted_ofEntries_iff (list : List String) :
    (ofEntries list).isUnrestricted = true ↔ listed list = [] := by
  simp [isUnrestricted, ofEntries, entries_eq_map_listed]

/-- If all entries are rules, none is left out and their order is kept. -/
theorem map_ok_filterMap_parseRule {es : List String}
    (h : ∀ e ∈ es, ∃ r, Endpoint.parseRule e = .ok r) :
    (es.filterMap fun e => (Endpoint.parseRule e).toOption).map .ok =
      es.map Endpoint.parseRule := by
  induction es with
  | nil => rfl
  | cons e es ih =>
    obtain ⟨r, hr⟩ := h e List.mem_cons_self
    have hrest := ih fun e' he' => h e' (List.mem_cons_of_mem e he')
    rw [List.filterMap_cons, List.map_cons, hr]
    exact congrArg (.ok r :: ·) hrest

end AccessPolicy

namespace Config

open AccessPolicy

/-- What a usable configuration has. -/
structure Usable (c : Config) : Prop where
  someHandles : 1 ≤ c.maxHandles
  numbered : c.maxHandles ≤ 2147483647
  someTransfer : 1 ≤ c.maxTransfer
  rules : ∀ e ∈ c.allowedTargets, Text.isAllBlank e = false → ∃ r, Endpoint.parseRule e = .ok r

/-- The first of the conditions that fails, with the error of the first entry that is no rule. -/
inductive FirstFault (c : Config) : ConfigFault → Prop where
  | noHandles : c.maxHandles = 0 → FirstFault c .noHandles
  | tooManyHandles : 2147483647 < c.maxHandles → FirstFault c .tooManyHandles
  | noTransfer : 1 ≤ c.maxHandles → c.maxHandles ≤ 2147483647 → c.maxTransfer = 0 →
      FirstFault c .noTransfer
  | allowedTarget {before after : List String} {e : String} {error : EndpointError} :
      1 ≤ c.maxHandles → c.maxHandles ≤ 2147483647 → 1 ≤ c.maxTransfer →
      listed c.allowedTargets = before ++ e :: after →
      (∀ b ∈ before, ∃ r, Endpoint.parseRule b = .ok r) → Endpoint.parseRule e = .error error →
        FirstFault c (.allowedTarget error)

theorem checkEntries_cons_blank {e : String} (h : Text.isAllBlank e = true) (es : List String) :
    checkEntries (e :: es) = checkEntries es ∧ listed (e :: es) = listed es := by
  rw [checkEntries, if_pos h, listed, List.filter_cons_of_neg (by simp [h])]
  exact ⟨rfl, rfl⟩

theorem listed_cons {e : String} (h : Text.isAllBlank e = false) (es : List String) :
    listed (e :: es) = e :: listed es := by
  rw [listed, List.filter_cons_of_pos (by simp [h])]
  rfl

theorem checkEntries_cons_ok {e : String} {r : Endpoint} (h : Text.isAllBlank e = false)
    (hr : Endpoint.parseRule e = .ok r) (es : List String) :
    checkEntries (e :: es) = checkEntries es := by
  rw [checkEntries, h, hr]
  rfl

theorem checkEntries_cons_error {e : String} {error : EndpointError}
    (h : Text.isAllBlank e = false) (he : Endpoint.parseRule e = .error error)
    (es : List String) : checkEntries (e :: es) = .error (.allowedTarget error) := by
  rw [checkEntries, h, he]
  rfl

theorem checkEntries_of_rules {es : List String}
    (h : ∀ e ∈ listed es, ∃ r, Endpoint.parseRule e = .ok r) : checkEntries es = .ok () := by
  induction es with
  | nil => rfl
  | cons e es ih =>
    cases hblank : Text.isAllBlank e with
    | true =>
      obtain ⟨hcheck, hlisted⟩ := checkEntries_cons_blank hblank es
      rw [hlisted] at h
      rw [hcheck, ih h]
    | false =>
      rw [listed_cons hblank] at h
      obtain ⟨r, hr⟩ := h e List.mem_cons_self
      rw [checkEntries_cons_ok hblank hr, ih fun e' he' => h e' (List.mem_cons_of_mem e he')]

/-- The first entry that is no rule decides. -/
theorem checkEntries_of_first {es before after : List String} {e : String} {error : EndpointError}
    (hes : listed es = before ++ e :: after)
    (hbefore : ∀ b ∈ before, ∃ r, Endpoint.parseRule b = .ok r)
    (he : Endpoint.parseRule e = .error error) :
    checkEntries es = .error (.allowedTarget error) := by
  induction es generalizing before with
  | nil => simp [listed] at hes
  | cons e' es ih =>
    cases hblank : Text.isAllBlank e' with
    | true =>
      obtain ⟨hcheck, hlisted⟩ := checkEntries_cons_blank hblank es
      rw [hlisted] at hes
      rw [hcheck, ih hes hbefore]
    | false =>
      rw [listed_cons hblank] at hes
      cases before with
      | nil =>
        obtain ⟨rfl, -⟩ := List.cons.inj hes
        exact checkEntries_cons_error hblank he es
      | cons b before =>
        obtain ⟨rfl, hrest⟩ := List.cons.inj hes
        obtain ⟨r, hr⟩ := hbefore e' List.mem_cons_self
        rw [checkEntries_cons_ok hblank hr,
          ih hrest fun b hb => hbefore b (List.mem_cons_of_mem e' hb)]

/-- Either all entries are rules, or there is a first one that is none. -/
theorem rules_or_first (es : List String) :
    (∀ e ∈ es, ∃ r, Endpoint.parseRule e = .ok r) ∨
      ∃ before e after error, es = before ++ e :: after ∧
        (∀ b ∈ before, ∃ r, Endpoint.parseRule b = .ok r) ∧
          Endpoint.parseRule e = .error error := by
  induction es with
  | nil => exact .inl fun _ h => absurd h List.not_mem_nil
  | cons e es ih =>
    cases he : Endpoint.parseRule e with
    | error error =>
      exact .inr ⟨[], e, es, error, rfl, fun _ h => absurd h List.not_mem_nil, he⟩
    | ok r =>
      rcases ih with hall | ⟨before, e', after, error, rfl, hbefore, he'⟩
      · exact .inl (List.forall_mem_cons.mpr ⟨⟨r, he⟩, hall⟩)
      · exact .inr ⟨e :: before, e', after, error, rfl,
          List.forall_mem_cons.mpr ⟨⟨r, he⟩, hbefore⟩, he'⟩

theorem forall_listed_iff {list : List String} {P : String → Prop} :
    (∀ e ∈ listed list, P e) ↔ ∀ e ∈ list, Text.isAllBlank e = false → P e := by
  simp [listed, List.mem_filter]

theorem validate_of_usable {c : Config} (h : c.Usable) : c.validate = .ok () := by
  have hnumbered := h.numbered
  have hhandles := h.someHandles
  have htransfer := h.someTransfer
  have hgreatest : Handle.greatest.toNat = 2147483647 := rfl
  rw [validate, if_neg (by omega), if_neg (by omega), if_neg (by omega)]
  exact checkEntries_of_rules (forall_listed_iff.mpr h.rules)

theorem validate_of_firstFault {c : Config} {fault : ConfigFault} (h : c.FirstFault fault) :
    c.validate = .error fault := by
  have hgreatest : Handle.greatest.toNat = 2147483647 := rfl
  cases h with
  | noHandles h => rw [validate, if_pos h]
  | tooManyHandles h => rw [validate, if_neg (by omega), if_pos (by omega)]
  | noTransfer hhandles hnumbered h =>
    rw [validate, if_neg (by omega), if_neg (by omega), if_pos h]
  | allowedTarget hhandles hnumbered htransfer hlisted hbefore he =>
    rw [validate, if_neg (by omega), if_neg (by omega), if_neg (by omega)]
    exact checkEntries_of_first hlisted hbefore he

theorem usable_or_firstFault (c : Config) : c.Usable ∨ ∃ fault, c.FirstFault fault := by
  by_cases hhandles : c.maxHandles = 0
  · exact .inr ⟨_, .noHandles hhandles⟩
  by_cases hnumbered : 2147483647 < c.maxHandles
  · exact .inr ⟨_, .tooManyHandles hnumbered⟩
  by_cases htransfer : c.maxTransfer = 0
  · exact .inr ⟨_, .noTransfer (by omega) (by omega) htransfer⟩
  rcases rules_or_first (listed c.allowedTargets) with
    hrules | ⟨before, e, after, error, hlisted, hbefore, he⟩
  · exact .inl ⟨by omega, by omega, by omega, forall_listed_iff.mp hrules⟩
  · exact .inr ⟨_, .allowedTarget (by omega) (by omega) (by omega) hlisted hbefore he⟩

theorem validate_eq_ok_iff (c : Config) : c.validate = .ok () ↔ c.Usable := by
  refine ⟨fun h => ?_, validate_of_usable⟩
  rcases c.usable_or_firstFault with husable | ⟨fault, hfault⟩
  · exact husable
  · rw [validate_of_firstFault hfault] at h
    cases h

theorem validate_eq_error_iff (c : Config) (fault : ConfigFault) :
    c.validate = .error fault ↔ c.FirstFault fault := by
  refine ⟨fun h => ?_, validate_of_firstFault⟩
  rcases c.usable_or_firstFault with husable | ⟨fault', hfault⟩
  · rw [validate_of_usable husable] at h
    cases h
  · rw [validate_of_firstFault hfault] at h
    cases h
    exact hfault

/-- A driver keeps to the numbers and to the whole list of a usable configuration. -/
theorem Usable.obeyed {W C : Type} {c : Config} (h : c.Usable) (backends : List (Backend W C))
    (world : W) :
    (Driver.new c backends world).table.capacity = c.maxHandles ∧
      (Driver.new c backends world).setup.policy.rules.map .ok =
        (listed c.allowedTargets).map Endpoint.parseRule ∧
      ((Driver.new c backends world).setup.policy.isUnrestricted = true ↔
        listed c.allowedTargets = []) := by
  refine ⟨Nat.min_eq_left h.numbered, ?_, isUnrestricted_ofEntries_iff c.allowedTargets⟩
  have hrules := map_ok_filterMap_parseRule (forall_listed_iff.mpr h.rules)
  rw [← rules_ofEntries] at hrules
  exact hrules

/-- An entry that the policy would leave out does not pass the check. -/
theorem not_usable_of_left_out {c : Config} {e : String} {error : EndpointError}
    (hmem : e ∈ entries c.allowedTargets) (he : Endpoint.parseRule e = .error error) :
    ¬ c.Usable := by
  intro h
  rw [entries_eq_map_listed] at hmem
  obtain ⟨e, hlisted, rfl⟩ := List.mem_map.mp hmem
  obtain ⟨r, hr⟩ := (isRule_trimmed_iff e).mpr (forall_listed_iff.mpr h.rules e hlisted)
  rw [hr] at he
  cases he

theorem validate_of_decode {c : Config} {text : String} (h : decode text = .ok c) :
    c.validate = .ok () := by
  unfold decode validated at h
  split at h
  · cases h
  · split at h
    · cases h
    · rename_i hvalid
      cases h
      exact hvalid

/-- The check passes just the usable configurations and names the first fault of every other one.
What passes is obeyed by the driver; what the policy would leave out does not pass; and what is
read from a document has passed. -/
theorem validate_agrees_with_policy (c : Config) :
    (c.validate = .ok () ↔ c.Usable) ∧
      (∀ fault, c.validate = .error fault ↔ c.FirstFault fault) ∧
      (c.validate = .ok () → ∀ (W C : Type) (backends : List (Backend W C)) (world : W),
        (Driver.new c backends world).table.capacity = c.maxHandles ∧
          (Driver.new c backends world).setup.policy.rules.map .ok =
            (listed c.allowedTargets).map Endpoint.parseRule ∧
          ((Driver.new c backends world).setup.policy.isUnrestricted = true ↔
            listed c.allowedTargets = [])) ∧
      (∀ e ∈ entries c.allowedTargets, ∀ error, Endpoint.parseRule e = .error error →
        ∃ fault, c.validate = .error fault) ∧
      (∀ text, decode text = .ok c → c.validate = .ok ()) := by
  refine ⟨c.validate_eq_ok_iff, c.validate_eq_error_iff, fun h W C => ?_, fun e hmem error he => ?_,
    fun text => validate_of_decode⟩
  · exact (c.validate_eq_ok_iff.mp h).obeyed
  · rcases c.usable_or_firstFault with husable | ⟨fault, hfault⟩
    · exact absurd husable (not_usable_of_left_out hmem he)
    · exact ⟨fault, validate_of_firstFault hfault⟩

/-- White space around an entry is no fault, and a blank entry is none at all. -/
theorem validate_agrees_with_policy_on_spaces :
    let c : Config := ⟨8, 4096, [" tcp://127.0.0.1:7000 ", " "], none⟩
    c.validate = .ok () ∧ (Driver.new (W := Unit) (C := Unit) c [] ()).table.capacity = 8 ∧
      (Driver.new (W := Unit) (C := Unit) c [] ()).setup.policy.rules.map .ok =
        [Endpoint.parseRule " tcp://127.0.0.1:7000 "] := by
  intro c
  have hvalid : c.validate = .ok () := by decide +kernel
  have hlisted : listed c.allowedTargets = [" tcp://127.0.0.1:7000 "] := by decide +kernel
  obtain ⟨hcapacity, hrules, -⟩ :=
    c.validate_agrees_with_policy.2.2.1 hvalid Unit Unit [] ()
  rw [hlisted] at hrules
  exact ⟨hvalid, hcapacity, hrules⟩

end Config
end GuestNet
