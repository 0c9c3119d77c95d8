import GuestNet.Proofs.Access.Allowlist
import GuestNet.Proofs.Access.Spelling
import GuestNet.Proofs.Idna.AsciiLabel
import GuestNet.Stream.Socket

/-! Which texts are targets, and what each of them asks for. The first `://` anywhere in a text tells
that it is written with a scheme; only without one does a slash at its start make it a path. -/
namespace GuestNet.Target

variable {s before after : List Char} {raw : String} {t : Target} {e : TargetError}

/-- What stands behind a scheme. -/
def separator : List Char := [':', '/', '/']

/-- A text is what stands before its first separator, the separator and what stands behind it. -/
structure SplitsAt (s before after : List Char) : Prop where
  eq_append : s = before ++ separator ++ after
  isFirst : ¬ separator <:+: before ++ [':', '/']

theorem SplitsAt.infix (h : SplitsAt s before after) : separator <:+: s :=
  ⟨before, after, h.eq_append.symm⟩

theorem splitsAt_of_splitScheme? (h : splitScheme? s = some (before, after)) :
    SplitsAt s before after := by
  fun_induction splitScheme? s generalizing before with
  | case1 rest =>
    cases h
    exact ⟨rfl, by decide⟩
  | case2 => cases h
  | case3 c rest hne ih =>
    obtain ⟨⟨front, back⟩, hrest, hcons⟩ := Option.map_eq_some_iff.mp h
    cases hcons
    obtain ⟨he, hfirst⟩ := ih hrest
    refine ⟨by rw [he]; rfl, fun hinfix => ?_⟩
    rcases List.infix_cons_iff.mp hinfix with hprefix | hinfix
    · -- a separator that starts with the first character would have been found
      obtain ⟨tail, htail⟩ := hprefix.trans (List.prefix_append (c :: (front ++ [':', '/']))
        ('/' :: after))
      have hcr : c :: rest = ':' :: '/' :: '/' :: tail := by
        rw [he]
        simpa [separator] using htail.symm
      obtain ⟨rfl, rfl⟩ := List.cons.inj hcr
      exact hne tail rfl rfl
    · exact hfirst hinfix

/-- A split does not come before another one. -/
theorem SplitsAt.not_shorter {w after' : List Char} (h : SplitsAt s before after)
    (h' : SplitsAt s (before ++ w) after') : w = [] := by
  cases w with
  | nil => rfl
  | cons c w =>
    have he : separator ++ after = c :: w ++ [':', '/'] ++ '/' :: after' := by
      have hboth := h.eq_append.symm.trans h'.eq_append
      simpa [separator] using hboth
    have hprefix : separator <+: c :: w ++ [':', '/'] :=
      List.prefix_of_prefix_length_le (List.prefix_append separator after)
        (he ▸ List.prefix_append (c :: w ++ [':', '/']) ('/' :: after')) (by simp [separator])
    refine absurd ?_ h'.isFirst
    rw [List.append_assoc]
    exact hprefix.isInfix.trans (List.suffix_append before _).isInfix

theorem SplitsAt.unique {before' after' : List Char} (h : SplitsAt s before after)
    (h' : SplitsAt s before' after') : before = before' ∧ after = after' := by
  have he := h.eq_append.symm.trans h'.eq_append
  have hbefore : before = before' := by
    rw [List.append_assoc, List.append_assoc] at he
    rcases List.append_eq_append_iff.mp he with ⟨w, rfl, -⟩ | ⟨w, rfl, -⟩
    · rw [h.not_shorter h', List.append_nil]
    · rw [h'.not_shorter h, List.append_nil]
  subst hbefore
  exact ⟨rfl, List.append_cancel_left he⟩

theorem splitScheme?_eq_some_iff :
    splitScheme? s = some (before, after) ↔ SplitsAt s before after := by
  refine ⟨splitsAt_of_splitScheme?, fun h => ?_⟩
  obtain ⟨⟨before', after'⟩, hs⟩ :=
    Option.isSome_iff_exists.mp (isSome_splitScheme?_iff.mpr h.infix)
  obtain ⟨rfl, rfl⟩ := h.unique (splitsAt_of_splitScheme? hs)
  exact hs

theorem splitScheme?_eq_none_iff : splitScheme? s = none ↔ ¬ separator <:+: s := by
  rw [separator, ← isSome_splitScheme?_iff, Option.not_isSome_iff_eq_none]

/-- What a text without white space at its ends asks for. -/
inductive Denotes (s : List Char) : Target → Prop where
  | url {scheme after : List Char} : SplitsAt s scheme after → scheme ≠ [] → after ≠ [] →
      Denotes s {
        scheme := String.ofList (lowerCase scheme)
        address := String.ofList
          (if String.ofList (lowerCase scheme) = streamScheme then after else s)
        raw := String.ofList s }
  | path {scheme : List Char} {address : List (List Char)} : ¬ separator <:+: s →
      s.head? = some '/' → pieces s = scheme :: address → address ≠ [] →
      Denotes s {
        scheme := String.ofList (lowerCase scheme)
        address := String.ofList (['/'].intercalate address)
        raw := String.ofList s }
  | stream : ¬ separator <:+: s → s ≠ [] → s.head? ≠ some '/' →
      Denotes s {
        scheme := streamScheme
        address := String.ofList s
        raw := String.ofList s }

/-- Why a text asks for nothing. It is `s` without the white space at its ends. -/
inductive Refused (raw : String) (s : List Char) : TargetError → Prop where
  | empty : s = [] → Refused raw s .empty
  | nothingAfter {scheme : List Char} : SplitsAt s scheme [] → Refused raw s (.noAddress raw)
  | nothingBefore {after : List Char} : SplitsAt s [] after → after ≠ [] →
      Refused raw s (.noScheme raw)
  | noPiece : ¬ separator <:+: s → s.head? = some '/' → pieces s = [] →
      Refused raw s (.noScheme raw)
  | onePiece {scheme : List Char} : ¬ separator <:+: s → s.head? = some '/' →
      pieces s = [scheme] → Refused raw s (.noAddress raw)

theorem refused_or_denotes (raw : String) :
    (∃ e, parse raw = .error e ∧ Refused raw (Text.trim raw.toList) e) ∨
      ∃ t, parse raw = .ok t ∧ Denotes (Text.trim raw.toList) t := by
  rw [parse]
  generalize Text.trim raw.toList = s
  cases hs : splitScheme? s with
  | some parts =>
    obtain ⟨scheme, after⟩ := parts
    have hsplit := splitScheme?_eq_some_iff.mp hs
    simp only [ofUrlText]
    split
    · rename_i hafter
      exact .inl ⟨_, rfl, .nothingAfter (hafter ▸ hsplit)⟩
    · rename_i hafter
      split
      · rename_i hscheme
        obtain rfl := List.map_eq_nil_iff.mp hscheme
        exact .inl ⟨_, rfl, .nothingBefore hsplit hafter⟩
      · rename_i hscheme
        exact .inr ⟨_, rfl, .url hsplit (fun he => hscheme (by rw [he]; rfl)) hafter⟩
  | none =>
    have hnone := splitScheme?_eq_none_iff.mp hs
    simp only
    split
    · exact .inl ⟨_, rfl, .empty rfl⟩
    · rename_i rest
      rw [ofPathText]
      split
      · rename_i hp
        exact .inl ⟨_, rfl, .noPiece hnone rfl hp⟩
      · rename_i scheme hp
        exact .inl ⟨_, rfl, .onePiece hnone rfl hp⟩
      · rename_i scheme address hne hp
        exact .inr ⟨_, rfl, .path hnone rfl hp hne⟩
    · rename_i hempty hslash
      refine .inr ⟨_, rfl, .stream hnone hempty fun hhead => ?_⟩
      obtain ⟨rest, hrest⟩ := List.head?_eq_some_iff.mp hhead
      exact hslash rest hrest

theorem parse_of_denotes (h : Denotes (Text.trim raw.toList) t) : parse raw = .ok t := by
  rw [parse]
  generalize Text.trim raw.toList = s at h ⊢
  cases h with
  | url hsplit hscheme hafter =>
    have hlower (text : List Char) (ht : text ≠ []) : lowerCase text ≠ [] :=
      fun he => ht (List.map_eq_nil_iff.mp he)
    simp only [splitScheme?_eq_some_iff.mpr hsplit, ofUrlText, if_neg hafter,
      if_neg (hlower _ hscheme)]
  | path hnone hslash hp hne =>
    obtain ⟨rest, rfl⟩ := List.head?_eq_some_iff.mp hslash
    simp only [splitScheme?_eq_none_iff.mpr hnone, ofPathText, hp]
  | stream hnone hempty hslash =>
    cases s with
    | nil => exact absurd rfl hempty
    | cons c rest =>
      simp only [splitScheme?_eq_none_iff.mpr hnone]
      split
      · rename_i he
        cases he
      · rename_i he
        exact absurd (congrArg List.head? he) hslash
      · rfl

theorem parse_eq_ok_iff : parse raw = .ok t ↔ Denotes (Text.trim raw.toList) t := by
  refine ⟨fun h => ?_, parse_of_denotes⟩
  rcases refused_or_denotes raw with ⟨e, he, -⟩ | ⟨t', ht, hd⟩
  · cases he.symm.trans h
  · cases ht.symm.trans h
    exact hd

theorem parse_of_refused (h : Refused raw (Text.trim raw.toList) e) : parse raw = .error e := by
  rw [parse]
  generalize Text.trim raw.toList = s at h ⊢
  cases h with
  | empty he =>
    subst he
    rfl
  | nothingAfter hsplit => simp only [splitScheme?_eq_some_iff.mpr hsplit, ofUrlText, if_true]
  | nothingBefore hsplit hafter =>
    simp only [splitScheme?_eq_some_iff.mpr hsplit, ofUrlText, if_neg hafter, lowerCase,
      List.map_nil, if_true]
  | noPiece hnone hslash hp =>
    obtain ⟨rest, rfl⟩ := List.head?_eq_some_iff.mp hslash
    simp only [splitScheme?_eq_none_iff.mpr hnone, ofPathText, hp]
  | onePiece hnone hslash hp =>
    obtain ⟨rest, rfl⟩ := List.head?_eq_some_iff.mp hslash
    simp only [splitScheme?_eq_none_iff.mpr hnone, ofPathText, hp]

theorem parse_eq_error_iff : parse raw = .error e ↔ Refused raw (Text.trim raw.toList) e := by
  refine ⟨fun h => ?_, parse_of_refused⟩
  rcases refused_or_denotes raw with ⟨e', he, hr⟩ | ⟨t, ht, -⟩
  · cases he.symm.trans h
    exact hr
  · cases ht.symm.trans h

theorem exists_refused_iff (raw : String) (s : List Char) : (∃ e, Refused raw s e) ↔ s = [] ∨
    (∃ before after, SplitsAt s before after ∧ (before = [] ∨ after = [])) ∨
      (¬ separator <:+: s ∧ s.head? = some '/' ∧ (pieces s).length < 2) := by
  constructor
  · rintro ⟨e, h⟩
    cases h with
    | empty he => exact .inl he
    | nothingAfter hsplit => exact .inr (.inl ⟨_, _, hsplit, .inr rfl⟩)
    | nothingBefore hsplit _ => exact .inr (.inl ⟨_, _, hsplit, .inl rfl⟩)
    | noPiece hnone hslash hp => exact .inr (.inr ⟨hnone, hslash, by simp [hp]⟩)
    | onePiece hnone hslash hp => exact .inr (.inr ⟨hnone, hslash, by simp [hp]⟩)
  · rintro (he | ⟨before, after, hsplit, hempty⟩ | ⟨hnone, hslash, hp⟩)
    · exact ⟨_, .empty he⟩
    · by_cases hafter : after = []
      · exact ⟨_, .nothingAfter (hafter ▸ hsplit)⟩
      · exact ⟨_, .nothingBefore (hempty.resolve_right hafter ▸ hsplit) hafter⟩
    · match hpieces : pieces s with
      | [] => exact ⟨_, .noPiece hnone hslash hpieces⟩
      | [scheme] => exact ⟨_, .onePiece hnone hslash hpieces⟩
      | a :: b :: rest =>
        rw [hpieces, List.length_cons, List.length_cons] at hp
        omega

theorem isUpper_toLower (c : Char) : c.toLower.isUpper = false := by
  have h := toNat_toLower c
  refine decide_eq_false fun hupper => ?_
  have hlow : 65 ≤ c.toLower.toNat := UInt32.le_iff_toNat_le.mp hupper.1
  have hhigh : c.toLower.toNat ≤ 90 := UInt32.le_iff_toNat_le.mp hupper.2
  split at h <;> omega

namespace Denotes

theorem raw_eq (h : Denotes s t) : t.raw = String.ofList s := by
  cases h <;> rfl

theorem scheme_ne (h : Denotes s t) : t.scheme ≠ "" := by
  have hlower {scheme : List Char} (hs : scheme ≠ []) : String.ofList (lowerCase scheme) ≠ "" :=
    fun he => hs (List.map_eq_nil_iff.mp (String.ofList_eq_empty_iff.mp he))
  cases h with
  | url _ hscheme _ => exact hlower hscheme
  | path _ _ hp _ => exact hlower (of_mem_pieces (hp ▸ List.mem_cons_self)).1
  | stream => exact (by decide : streamScheme ≠ "")

theorem isUpper_scheme (h : Denotes s t) : ∀ c ∈ t.scheme.toList, c.isUpper = false := by
  have hlower {scheme : List Char} :
      ∀ c ∈ (String.ofList (lowerCase scheme)).toList, c.isUpper = false := by
    intro c hc
    rw [String.toList_ofList] at hc
    obtain ⟨d, -, rfl⟩ := List.mem_map.mp hc
    exact isUpper_toLower d
  cases h with
  | url => exact hlower
  | path => exact hlower
  | stream =>
    have hall : streamScheme.toList.all (!·.isUpper) = true := by decide
    exact fun c hc => by simpa using List.all_eq_true.mp hall c hc

theorem address_ne (h : Denotes s t) : t.address ≠ "" := by
  cases h with
  | url hsplit _ hafter =>
    rw [ne_eq, String.ofList_eq_empty_iff]
    split
    · exact hafter
    · rintro rfl
      exact absurd hsplit.infix (by decide)
  | path _ _ hp hne =>
    rw [ne_eq, String.ofList_eq_empty_iff]
    obtain ⟨a, address, rfl⟩ := List.exists_cons_of_ne_nil hne
    have ha : a ≠ [] := (of_mem_pieces (hp ▸ List.mem_cons_of_mem _ List.mem_cons_self)).1
    cases address <;> simp [ha]
  | stream _ hempty _ => exact fun he => hempty (String.ofList_eq_empty_iff.mp he)

end Denotes

/-- A target is read again from its own text. -/
theorem parse_raw (h : parse raw = .ok t) : parse t.raw = .ok t := by
  have htrim : Text.trim t.raw.toList = Text.trim raw.toList := by
    rw [(parse_eq_ok_iff.mp h).raw_eq, String.toList_ofList, Text.trim_trim]
  rw [parse_eq_ok_iff, htrim]
  exact parse_eq_ok_iff.mp h

/-- What is turned down is turned down as bad parameters, and nothing else is. A target has the text
that it was read from, from which it is read again, a scheme in lower case and an address. -/
theorem parse_follows_grammar (raw : String) :
    ((∃ e, parse raw = .error e) ↔ Text.trim raw.toList = [] ∨
        (∃ before after, SplitsAt (Text.trim raw.toList) before after ∧
          (before = [] ∨ after = [])) ∨
        (¬ separator <:+: Text.trim raw.toList ∧ (Text.trim raw.toList).head? = some '/' ∧
          (pieces (Text.trim raw.toList)).length < 2)) ∧
      (∀ e, parse raw = .error e ↔ Refused raw (Text.trim raw.toList) e) ∧
      (∀ e, parse raw = .error e →
        ∀ (W C : Type) [Connection C] (d : Driver W C) (options : String),
          d.openTarget raw options = (.error (.badParams e.message), d)) ∧
      (∀ t, parse raw = .ok t ↔ Denotes (Text.trim raw.toList) t) ∧
      (∀ t, parse raw = .ok t → t.raw = String.ofList (Text.trim raw.toList) ∧ t.scheme ≠ "" ∧
        (∀ c ∈ t.scheme.toList, c.isUpper = false) ∧ t.address ≠ "" ∧ parse t.raw = .ok t) := by
  refine ⟨?_, fun e => parse_eq_error_iff, fun e he W C _ d options => ?_,
    fun t => parse_eq_ok_iff, fun t ht => ?_⟩
  · rw [← exists_refused_iff raw]
    exact exists_congr fun e => parse_eq_error_iff
  · rw [Driver.openTarget, Setup.backendFor, he]
  · have hd := parse_eq_ok_iff.mp ht
    exact ⟨hd.raw_eq, hd.scheme_ne, hd.isUpper_scheme, hd.address_ne, parse_raw ht⟩

/-- Slashes in a row count as one where a path is read, and a scheme alone is no target. -/
theorem parse_follows_grammar_of_paths :
    let d : Driver Unit Stream.Socket := .new .default [] ()
    parse " //Web//a/B " = .ok ⟨"web", "a/B", "//Web//a/B"⟩ ∧
      parse "//Web//a/B" = .ok ⟨"web", "a/B", "//Web//a/B"⟩ ∧
      parse "/Web" = .error (.noAddress "/Web") ∧
      d.openTarget "/Web" "" = (.error (.badParams "target '/Web' has no address"), d) := by
  intro d
  have hpath : parse " //Web//a/B " = .ok ⟨"web", "a/B", "//Web//a/B"⟩ := by decide +kernel
  have halone : parse "/Web" = .error (.noAddress "/Web") := by decide +kernel
  obtain ⟨-, -, -, -, hfacts⟩ := parse_follows_grammar " //Web//a/B "
  obtain ⟨-, -, hrefused, -, -⟩ := parse_follows_grammar "/Web"
  obtain ⟨-, -, -, -, hagain⟩ := hfacts _ hpath
  exact ⟨hpath, hagain, halone, hrefused _ halone Unit Stream.Socket d ""⟩

end GuestNet.Target
