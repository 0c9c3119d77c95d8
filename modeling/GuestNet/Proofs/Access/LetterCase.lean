import GuestNet.Proofs.Access.StreamSpellings
import GuestNet.Proofs.Url.AfterHost

/-! The letter case of targets and of entries of an allow-list. Neither the scheme nor the host of a
target has one as far as the policy goes. -/
namespace GuestNet

namespace Target

variable {s s' before after : List Char}

theorem infix_map_toLower_iff : separator <:+: s.map Char.toLower ↔ separator <:+: s := by
  have hlower : separator.map Char.toLower = separator := by decide
  constructor
  · rintro ⟨front, back, he⟩
    obtain ⟨text, back', rfl, htext, -⟩ := List.map_eq_append_iff.mp he.symm
    obtain ⟨front', sep, rfl, -, hsep⟩ := List.map_eq_append_iff.mp htext
    obtain ⟨a, sep, rfl, ha, hsep⟩ := List.map_eq_cons_iff.mp hsep
    obtain ⟨b, sep, rfl, hb, hsep⟩ := List.map_eq_cons_iff.mp hsep
    obtain ⟨c, sep, rfl, hc, hsep⟩ := List.map_eq_cons_iff.mp hsep
    obtain rfl := List.map_eq_nil_iff.mp hsep
    rw [(toLower_eq_nonletter_iff (by decide)).mp ha, (toLower_eq_nonletter_iff (by decide)).mp hb,
      (toLower_eq_nonletter_iff (by decide)).mp hc]
    exact ⟨front', back', rfl⟩
  · intro h
    exact hlower ▸ h.map Char.toLower

theorem SplitsAt.map_toLower (h : SplitsAt s before after) :
    SplitsAt (s.map Char.toLower) (before.map Char.toLower) (after.map Char.toLower) := by
  refine ⟨?_, fun hoccurs => h.isFirst (infix_map_toLower_iff.mp ?_)⟩
  · rw [h.eq_append, List.map_append, List.map_append]
    rfl
  · rw [List.map_append]
    exact hoccurs

/-- A text in other letter case is split at the same place. -/
theorem SplitsAt.exists_of_recased (h : SplitsAt s before after)
    (hs : s.map Char.toLower = s'.map Char.toLower) : ∃ before' after', SplitsAt s' before' after' ∧
      before.map Char.toLower = before'.map Char.toLower ∧
      after.map Char.toLower = after'.map Char.toLower := by
  have hoccurs : separator <:+: s' := by
    rw [← infix_map_toLower_iff, ← hs, infix_map_toLower_iff]
    exact h.infix
  obtain ⟨⟨before', after'⟩, hsplit⟩ :=
    Option.isSome_iff_exists.mp (isSome_splitScheme?_iff.mpr hoccurs)
  have h' := splitScheme?_eq_some_iff.mp hsplit
  obtain ⟨hbefore, hafter⟩ := (hs ▸ h.map_toLower).unique h'.map_toLower
  exact ⟨before', after', h', hbefore, hafter⟩

end Target

namespace Target

variable {word : List Char}

theorem IsStreamWord.isAlpha (h : IsStreamWord word) : ∀ c ∈ word, c.isAlpha = true := by
  intro c hc
  have hlower : c.toLower ∈ streamScheme.toList := h ▸ List.mem_map_of_mem hc
  have hall : streamScheme.toList.all Char.isAlpha = true := by decide
  rw [← Url.isAlpha_toLower]
  exact List.all_eq_true.mp hall _ hlower

theorem IsStreamWord.isSchemeName (h : IsStreamWord word) : Url.IsSchemeName word where
  first := by
    obtain ⟨c, rest, rfl⟩ := List.exists_cons_of_ne_nil h.ne
    exact ⟨c, rest, rfl, h.isAlpha c List.mem_cons_self⟩
  chars c hc := by simp [Url.isSchemeChar, Char.isAlphanum, h.isAlpha c hc]

theorem ofScheme_stream : Url.Kind.ofScheme streamScheme = .other := by decide

theorem IsStreamWord.afterHost (h : IsStreamWord word) (s : List Char) :
    Url.afterHost (word ++ separator ++ s) = Url.afterHostIn .other (Url.cleanEnd s) := by
  have hname : String.ofList (word.map Char.toLower) = streamScheme := h.ofList_eq
  rw [separator, h.isSchemeName.afterHost, hname, Url.afterHostOf, ofScheme_stream]
  rfl

end Target

namespace Url

/-- Where an address stands in place of the host of a stream. -/
theorem afterHostIn_cleanEnd {s r : List Char}
    (h : splitScheme? (clean s) = some (streamScheme.toList, '/' :: '/' :: r)) :
    afterHostIn .other (cleanEnd s) = ':' :: '/' :: '/' :: r := by
  obtain ⟨name, hname, hlower, hne, -⟩ := splitScheme?_eq_some h
  have hword : Target.IsStreamWord name := hlower.symm
  have hclean : clean s ≠ [] := by
    rw [hname]
    exact List.append_ne_nil_of_left_ne_nil hne _
  obtain ⟨junk, hjunk, he⟩ := exists_cleanEnd hclean
  rw [he, hname, ← List.append_assoc]
  apply afterHostIn_of_word
  intro c hc
  rcases List.mem_append.mp hc with hc | hc
  · exact not_mem_delimiters (.inl (hjunk c hc))
  · exact not_mem_delimiters (.inr (hword.isAlpha c hc))

end Url

namespace Endpoint

open Url (lead?)

/-- The endpoint of a target with a scheme, from where its address leads. -/
def ofLead? (scheme : String) : Endpoint × Bool × Bool → Option Endpoint
  | (e, hasUserinfo, more) =>
    if e.scheme ≠ scheme ∨ hasUserinfo = true ∨
        (scheme = streamScheme ∧ (e.path ≠ "" ∨ more = true)) then none
    else some e

theorem toOption_ofUrl (t : Target) (u : Url) :
    (ofUrl t u).toOption = u.lead?.bind (ofLead? t.scheme) := by
  rw [ofUrl, lead?, Url.endpoint?]
  cases u.hostText? with
  | none => split_ifs <;> rfl
  | some host =>
    simp only [Option.map_some, Option.bind_some, ofLead?, Bool.or_eq_true]
    by_cases hscheme : u.scheme = t.scheme
    · rw [if_neg (not_not.mpr hscheme)]
      by_cases hinfo : u.hasUserinfo = true
      · rw [if_pos hinfo, if_pos (.inr (.inl hinfo))]
        rfl
      · rw [if_neg hinfo]
        by_cases hmore : t.scheme = streamScheme ∧
            (pathText u ≠ "" ∨ u.query.isSome = true ∨ u.fragment.isSome = true)
        · rw [if_pos hmore, if_pos (.inr (.inr hmore))]
          rfl
        · have hnone : ¬ (u.scheme ≠ t.scheme ∨ u.hasUserinfo = true ∨ t.scheme = streamScheme ∧
              (pathText u ≠ "" ∨ u.query.isSome = true ∨ u.fragment.isSome = true)) := by
            rintro (h | h | h)
            · exact h hscheme
            · exact hinfo h
            · exact hmore h
          rw [if_neg hmore, if_neg hnone]
          rfl
    · rw [if_pos hscheme, if_pos (.inl hscheme)]
      rfl

theorem toOption_ofTarget (t : Target) : (ofTarget t).toOption =
    ((Url.parse (urlText t)).toOption.bind lead?).bind (ofLead? t.scheme) := by
  rw [ofTarget]
  cases Url.parse (urlText t) with
  | error e => rfl
  | ok u => exact toOption_ofUrl t u

/-- An address of another scheme leads nowhere for a stream, nor does one without slashes. -/
theorem parse_ofLead?_of_ne {text : String} (h : ∀ r, Url.splitScheme? (Url.clean text.toList) ≠
    some (streamScheme.toList, '/' :: '/' :: r)) :
    ((Url.parse text).toOption.bind lead?).bind (ofLead? streamScheme) = none := by
  cases hu : Url.parse text with
  | error e => rfl
  | ok u =>
    obtain ⟨scheme, rest, hsplit, hread, hscheme⟩ := Url.parse_eq_ok hu
    by_cases hs : String.ofList scheme = streamScheme
    · rw [hs] at hread
      have hlist : scheme = streamScheme.toList := by
        rw [← hs, String.toList_ofList]
      subst hlist
      have hnone : (Url.readAfterScheme streamScheme rest).toOption.bind lead? = none :=
        Url.lead?_readOther_of_noSlashes Target.ofScheme_stream fun r he => h r (he ▸ hsplit)
      rw [hread] at hnone
      rw [hnone]
      rfl
    · cases hl : u.lead? with
      | none => simp only [Except.toOption, Option.bind_some, hl, Option.bind_none]
      | some lead =>
        obtain ⟨e, he, rfl⟩ := Option.map_eq_some_iff.mp hl
        obtain ⟨host, -, rfl⟩ := Option.map_eq_some_iff.mp he
        simp only [Except.toOption, Option.bind_some, hl]
        exact if_pos (.inl fun heq => hs (hscheme.symm.trans heq))

end Endpoint

namespace Target

/-- The target is written with a scheme, and two texts only differ in the case of letters up to the
end of the host. -/
structure Recased (raw raw' : String) : Prop where
  isUrlText : IsUrlText raw
  lowerCase_eq : lowerCase (Text.trim raw.toList) = lowerCase (Text.trim raw'.toList)
  afterHost_eq : Url.afterHost (Text.trim raw.toList) = Url.afterHost (Text.trim raw'.toList)

instance (raw : String) : Decidable (IsUrlText raw) := inferInstanceAs (Decidable (_ = true))

instance (raw raw' : String) : Decidable (Recased raw raw') :=
  decidable_of_iff (IsUrlText raw ∧
      lowerCase (Text.trim raw.toList) = lowerCase (Text.trim raw'.toList) ∧
        Url.afterHost (Text.trim raw.toList) = Url.afterHost (Text.trim raw'.toList))
    ⟨fun h => ⟨h.1, h.2.1, h.2.2⟩, fun h => ⟨h.isUrlText, h.lowerCase_eq, h.afterHost_eq⟩⟩

/-- Where an address stands in place of the host of a stream, nothing but the letters of its scheme
stands before what follows that host. -/
theorem splitScheme?_nested {after after' : List Char}
    (hafter : after.map Char.toLower = after'.map Char.toLower)
    (ha : Url.afterHostIn .other (Url.cleanEnd after) =
      Url.afterHostIn .other (Url.cleanEnd after')) {r : List Char}
    (h : Url.splitScheme? (Url.clean after) = some (streamScheme.toList, '/' :: '/' :: r)) :
    Url.splitScheme? (Url.clean after') = some (streamScheme.toList, '/' :: '/' :: r) := by
  have hslash {c : Char} : c.toLower = '/' ↔ c = '/' := toLower_eq_nonletter_iff (by decide)
  have hlower := congrArg (fun s => Url.splitScheme? (Url.clean s)) hafter
  simp only [Url.clean_map_toLower, Url.splitScheme?_map_toLower, h, Option.map_some] at hlower
  obtain ⟨⟨scheme, rest⟩, hsplit, hpair⟩ := Option.map_eq_some_iff.mp hlower.symm
  obtain ⟨rfl, hrest⟩ := (Prod.mk.injEq ..).mp hpair
  obtain ⟨a, rest, rfl, hsa, hrest⟩ := List.map_eq_cons_iff.mp hrest
  obtain ⟨b, r', rfl, hsb, -⟩ := List.map_eq_cons_iff.mp hrest
  obtain rfl : a = '/' := hslash.mp (hsa.trans (hslash.mpr rfl))
  obtain rfl : b = '/' := hslash.mp (hsb.trans (hslash.mpr rfl))
  rw [Url.afterHostIn_cleanEnd h, Url.afterHostIn_cleanEnd hsplit] at ha
  obtain rfl : r = r' := by simpa using ha
  exact hsplit

/-- An address that stands in place of the host of a stream leads to one place in any letter
case. -/
theorem ofLead?_nested {after after' : List Char}
    (hafter : after.map Char.toLower = after'.map Char.toLower)
    (ha : Url.afterHostIn .other (Url.cleanEnd after) =
      Url.afterHostIn .other (Url.cleanEnd after')) :
    ((Url.parse (String.ofList after)).toOption.bind Url.lead?).bind
        (Endpoint.ofLead? streamScheme) =
      ((Url.parse (String.ofList after')).toOption.bind Url.lead?).bind
        (Endpoint.ofLead? streamScheme) := by
  by_cases h : ∃ r, Url.splitScheme? (Url.clean after) =
      some (streamScheme.toList, '/' :: '/' :: r)
  · obtain ⟨r, hr⟩ := h
    have hr' := splitScheme?_nested hafter ha hr
    rw [Url.parse, Url.parse, String.toList_ofList, String.toList_ofList, hr, hr']
  · have h' : ¬ ∃ r, Url.splitScheme? (Url.clean after') =
        some (streamScheme.toList, '/' :: '/' :: r) := by
      rintro ⟨r, hr⟩
      exact h ⟨r, splitScheme?_nested hafter.symm ha.symm hr⟩
    rw [Endpoint.parse_ofLead?_of_ne, Endpoint.parse_ofLead?_of_ne]
    · simpa only [String.toList_ofList, not_exists] using h'
    · simpa only [String.toList_ofList, not_exists] using h

variable {raw raw' : String}

/-- A scheme and a host that are written out may be written in any letter case. -/
theorem Recased.of_host {scheme scheme' front host host' tail : List Char}
    (hn : Url.IsSchemeName scheme) (hs : lowerCase scheme = lowerCase scheme')
    (hw : Url.IsWritten (Url.Kind.ofScheme (String.ofList (lowerCase scheme))) front host)
    (hh : lowerCase host = lowerCase host')
    (h : Text.trim raw.toList = scheme ++ separator ++ (front ++ host ++ tail))
    (h' : Text.trim raw'.toList = scheme' ++ separator ++ (front ++ host' ++ tail)) :
    Recased raw raw' where
  isUrlText := by
    apply isSome_splitScheme?_iff.mpr
    rw [h]
    exact ⟨scheme, front ++ host ++ tail, rfl⟩
  lowerCase_eq := by
    simp only [lowerCase] at hs hh
    simp only [h, h', lowerCase, List.map_append, hs, hh]
  afterHost_eq := by
    rw [h, h']
    exact hw.afterHost hn hs hh tail

namespace Recased

theorem symm (h : Recased raw raw') : Recased raw' raw where
  isUrlText := by
    have hoccurs := isSome_splitScheme?_iff.mp h.isUrlText
    apply isSome_splitScheme?_iff.mpr
    change separator <:+: _
    rw [← infix_map_toLower_iff, ← lowerCase, ← h.lowerCase_eq, lowerCase, infix_map_toLower_iff]
    exact hoccurs
  lowerCase_eq := h.lowerCase_eq.symm
  afterHost_eq := h.afterHost_eq.symm

theorem exists_splitsAt (h : Recased raw raw') : ∃ before after before' after',
    SplitsAt (Text.trim raw.toList) before after ∧
      SplitsAt (Text.trim raw'.toList) before' after' ∧ lowerCase before = lowerCase before' ∧
        lowerCase after = lowerCase after' := by
  obtain ⟨⟨before, after⟩, hsplit⟩ := Option.isSome_iff_exists.mp h.isUrlText
  have hs := splitScheme?_eq_some_iff.mp hsplit
  obtain ⟨before', after', hs', hbefore, hafter⟩ := hs.exists_of_recased h.lowerCase_eq
  exact ⟨before, after, before', after', hs, hs', hbefore, hafter⟩

/-- A target of another scheme is its own address. -/
theorem toOption_ofTarget_of_ne (h : Recased raw raw') {t t' : Target} (hs : t.scheme = t'.scheme)
    (ha : t.address = String.ofList (Text.trim raw.toList))
    (ha' : t'.address = String.ofList (Text.trim raw'.toList)) :
    (Endpoint.ofTarget t).toOption = (Endpoint.ofTarget t').toOption := by
  have htext {raw : String} {t : Target} (hu : IsUrlText raw)
      (ha : t.address = String.ofList (Text.trim raw.toList)) :
      Endpoint.urlText t = String.ofList (Text.trim raw.toList) := by
    rw [Endpoint.urlText, ha, String.toList_ofList]
    exact if_pos hu
  rw [Endpoint.toOption_ofTarget, Endpoint.toOption_ofTarget, htext h.isUrlText ha,
    htext h.symm.isUrlText ha', hs, Url.lead?_parse_congr]
  · rw [String.toList_ofList, String.toList_ofList]
    exact h.lowerCase_eq
  · rw [String.toList_ofList, String.toList_ofList]
    exact h.afterHost_eq

/-- A stream leaves its scheme out of its address. -/
theorem toOption_ofTarget_stream {t t' : Target} {after after' : List Char}
    (hs : t.scheme = streamScheme) (hs' : t'.scheme = streamScheme)
    (ha : t.address = String.ofList after) (ha' : t'.address = String.ofList after')
    (hafter : after.map Char.toLower = after'.map Char.toLower)
    (hend : Url.afterHostIn .other (Url.cleanEnd after) =
      Url.afterHostIn .other (Url.cleanEnd after')) :
    (Endpoint.ofTarget t).toOption = (Endpoint.ofTarget t').toOption := by
  have hoccurs : separator <:+: after ↔ separator <:+: after' := by
    rw [← infix_map_toLower_iff, hafter, infix_map_toLower_iff]
  rw [Endpoint.toOption_ofTarget, Endpoint.toOption_ofTarget, Endpoint.urlText, Endpoint.urlText,
    ha, ha', String.toList_ofList, String.toList_ofList, hs, hs']
  by_cases hnested : separator <:+: after
  · rw [if_pos (isSome_splitScheme?_iff.mpr hnested),
      if_pos (isSome_splitScheme?_iff.mpr (hoccurs.mp hnested))]
    exact ofLead?_nested hafter hend
  · rw [if_neg (mt isSome_splitScheme?_iff.mp hnested),
      if_neg (mt isSome_splitScheme?_iff.mp (mt hoccurs.mpr hnested)), Url.lead?_parse_congr]
    · simp only [String.toList_append, String.toList_ofList, List.map_append, hafter]
    · have hword : IsStreamWord streamScheme.toList := by
        have hlower : lowerCase streamScheme.toList = streamScheme.toList := by decide
        exact hlower
      have htext (s : List Char) : (streamScheme ++ "://" ++ String.ofList s).toList =
          streamScheme.toList ++ separator ++ s := by
        rw [String.toList_append, String.toList_append, String.toList_ofList, String.toList_ofList]
        rfl
      rw [htext, htext, hword.afterHost, hword.afterHost, hend]

theorem exists_parse (h : Recased raw raw') {t : Target} (ht : parse raw = .ok t) :
    ∃ t', parse raw' = .ok t' ∧
      (Endpoint.ofTarget t).toOption = (Endpoint.ofTarget t').toOption := by
  obtain ⟨before, after, before', after', hs, hs', hbefore, hafter⟩ := h.exists_splitsAt
  have hd := parse_eq_ok_iff.mp ht
  cases hd with
  | path hnone => exact absurd hs.infix hnone
  | stream hnone => exact absurd hs.infix hnone
  | url hsplit hscheme hne =>
    obtain ⟨rfl, rfl⟩ := hs.unique hsplit
    have hscheme' : before' ≠ [] := by
      rintro rfl
      exact hscheme (List.map_eq_nil_iff.mp hbefore)
    have hne' : after' ≠ [] := by
      rintro rfl
      exact hne (List.map_eq_nil_iff.mp hafter)
    refine ⟨_, parse_of_denotes (.url hs' hscheme' hne'), ?_⟩
    by_cases hstream : String.ofList (lowerCase before) = streamScheme
    · have hstream' : String.ofList (lowerCase before') = streamScheme := by
        rw [← hbefore, hstream]
      have hword : IsStreamWord before := by
        rw [IsStreamWord, ← hstream, String.toList_ofList]
      have hend := h.afterHost_eq
      rw [hs.eq_append, hs'.eq_append, hword.afterHost,
        IsStreamWord.afterHost (hbefore.symm.trans hword)] at hend
      simp only [if_pos hstream, if_pos hstream']
      exact toOption_ofTarget_stream hstream hstream' rfl rfl hafter hend
    · have hstream' : String.ofList (lowerCase before') ≠ streamScheme := by
        rwa [← hbefore]
      simp only [if_neg hstream, if_neg hstream']
      exact h.toOption_ofTarget_of_ne (congrArg String.ofList hbefore) rfl rfl

theorem toOption_parseRule_eq (h : Recased raw raw') :
    (Endpoint.parseRule raw).toOption = (Endpoint.parseRule raw').toOption := by
  rw [Endpoint.toOption_parseRule, Endpoint.toOption_parseRule]
  cases ht : parse raw with
  | ok t =>
    obtain ⟨t', ht', hends⟩ := h.exists_parse ht
    simpa only [ht', Except.toOption, Option.bind_some] using hends
  | error e =>
    cases ht' : parse raw' with
    | error e' => rfl
    | ok t' =>
      obtain ⟨t, hok, -⟩ := h.symm.exists_parse ht'
      cases ht.symm.trans hok

theorem isAllBlank_eq_false (h : Recased raw raw') : Text.isAllBlank raw = false := by
  rw [Text.isAllBlank, Bool.eq_false_iff, ne_eq, ← Text.trim_eq_nil_iff]
  intro he
  have hu := h.isUrlText
  rw [IsUrlText, he] at hu
  cases hu

end Recased
end Target

namespace AccessPolicy

open Relation (ReflGen)
open Target (Recased)

variable {list list' : List String}

theorem restricted_eq (list : List String) :
    (ofEntries list).restricted = decide (listed list ≠ []) := by
  have h := isUnrestricted_ofEntries_iff list
  rw [isUnrestricted, Bool.not_eq_true'] at h
  rw [Bool.eq_iff_iff, decide_eq_true_iff, ne_eq, ← h, Bool.not_eq_false]

theorem ofEntries_congr (hrules : (ofEntries list).rules = (ofEntries list').rules)
    (hlisted : listed list = [] ↔ listed list' = []) : ofEntries list = ofEntries list' := by
  have hrestricted : (ofEntries list).restricted = (ofEntries list').restricted := by
    simp only [restricted_eq, ne_eq, hlisted]
  exact (mk.injEq ..).mpr ⟨hrules, hrestricted⟩

/-- Entries in other letter case are the same rules. -/
theorem ofEntries_recased (h : List.Forall₂ (ReflGen Recased) list list') :
    ofEntries list = ofEntries list' := by
  induction h with
  | nil => rfl
  | @cons e e' list list' he _ ih =>
    have hrules := congrArg rules ih
    have hlisted : listed list = [] ↔ listed list' = [] := by
      rw [← isUnrestricted_ofEntries_iff, ← isUnrestricted_ofEntries_iff, ih]
    rw [rules_ofEntries, rules_ofEntries] at hrules
    cases he with
    | refl =>
      apply ofEntries_congr
      · rw [rules_ofEntries, rules_ofEntries, listed, listed, List.filter_cons, List.filter_cons]
        split
        · rw [List.filterMap_cons, List.filterMap_cons, ← listed, ← listed, hrules]
        · exact hrules
      · simp only [listed_eq_nil_iff, List.forall_mem_cons] at hlisted ⊢
        rw [hlisted]
    | single he =>
      rw [ofEntries_congr]
      · rw [rules_ofEntries, rules_ofEntries, Config.listed_cons he.isAllBlank_eq_false,
          Config.listed_cons he.symm.isAllBlank_eq_false, List.filterMap_cons, List.filterMap_cons,
          he.toOption_parseRule_eq, hrules]
      · rw [Config.listed_cons he.isAllBlank_eq_false,
          Config.listed_cons he.symm.isAllBlank_eq_false]
        exact iff_of_false (List.cons_ne_nil _ _) (List.cons_ne_nil _ _)

/-- Changes of the letter case of a scheme and of a host, in a target and in any entries of an
allow-list, change neither what is read nor what is decided. -/
theorem decision_ignores_letter_case {raw raw' : String} {list list' : List String}
    (h : ReflGen Recased raw raw') (hl : List.Forall₂ (ReflGen Recased) list list') :
    (Endpoint.parseRule raw).toOption = (Endpoint.parseRule raw').toOption ∧
      ((∃ t, Target.parse raw = .ok t) ↔ ∃ t', Target.parse raw' = .ok t') ∧
      ∀ t t', Target.parse raw = .ok t → Target.parse raw' = .ok t' →
        (Endpoint.ofTarget t).toOption = (Endpoint.ofTarget t').toOption ∧
          (ofEntries list).isPermitted t = (ofEntries list').isPermitted t' ∧
            ((ofEntries list).check t = .ok () ↔ (ofEntries list').check t' = .ok ()) := by
  have hends : ∀ t t', Target.parse raw = .ok t → Target.parse raw' = .ok t' →
      (Endpoint.ofTarget t).toOption = (Endpoint.ofTarget t').toOption := by
    intro t t' ht ht'
    cases h with
    | refl => rw [Except.ok.inj (ht.symm.trans ht')]
    | single h =>
      obtain ⟨t'', ht'', hends⟩ := h.exists_parse ht
      rwa [Except.ok.inj (ht''.symm.trans ht')] at hends
  refine ⟨?_, ?_, fun t t' ht ht' => ⟨hends t t' ht ht', ?_⟩⟩
  · cases h with
    | refl => rfl
    | single h => exact h.toOption_parseRule_eq
  · cases h with
    | refl => rfl
    | single h =>
      constructor
      · rintro ⟨t, ht⟩
        obtain ⟨t', ht', -⟩ := h.exists_parse ht
        exact ⟨t', ht'⟩
      · rintro ⟨t', ht'⟩
        obtain ⟨t, ht, -⟩ := h.symm.exists_parse ht'
        exact ⟨t, ht⟩
  · have hpermitted : (ofEntries list).isPermitted t = (ofEntries list').isPermitted t' := by
      rw [isPermitted_eq_any, isPermitted_eq_any, hends t t' ht ht', ofEntries_recased hl]
    refine ⟨hpermitted, ?_⟩
    rw [check_eq_ok_iff, check_eq_ok_iff, hpermitted]

/-- A host of letters in capitals, an internet address with digits in capitals and a scheme in
capitals. -/
theorem decision_ignores_letter_case_of_capitals :
    let list := ["http://example.com:80/a", "tcp://[::ab]:7000"]
    let list' := ["HTTP://Example.COM:80/a", "tcp://[::AB]:7000"]
    List.Forall₂ (ReflGen Recased) list list' ∧
      Recased "tcp://[::aB]:7000" "TCP://[::Ab]:7000" ∧
      ∃ t t', Target.parse "tcp://[::aB]:7000" = .ok t ∧ Target.parse "TCP://[::Ab]:7000" = .ok t' ∧
        (Endpoint.ofTarget t).toOption = (Endpoint.ofTarget t').toOption ∧
          (ofEntries list).isPermitted t = (ofEntries list').isPermitted t' := by
  intro list list'
  have hweb : Recased "http://example.com:80/a" "HTTP://Example.COM:80/a" := by decide +kernel
  have hrule : Recased "tcp://[::ab]:7000" "tcp://[::AB]:7000" := by decide +kernel
  have htarget : Recased "tcp://[::aB]:7000" "TCP://[::Ab]:7000" := by decide +kernel
  have hlist : List.Forall₂ (ReflGen Recased) list list' :=
    .cons (.single hweb) (.cons (.single hrule) .nil)
  obtain ⟨-, hok, hall⟩ := decision_ignores_letter_case (.single htarget) hlist
  have ht : Target.parse "tcp://[::aB]:7000" =
      .ok ⟨"tcp", "[::aB]:7000", "tcp://[::aB]:7000"⟩ := by decide +kernel
  obtain ⟨t', ht'⟩ := hok.mp ⟨_, ht⟩
  obtain ⟨hends, hpermitted, -⟩ := hall _ t' ht ht'
  exact ⟨hlist, htarget, _, t', ht, ht', hends, hpermitted⟩

end AccessPolicy
end GuestNet
