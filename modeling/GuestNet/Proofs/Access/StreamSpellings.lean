import GuestNet.Proofs.Access.Decision
import GuestNet.Proofs.Target.Grammar

/-! The ways to write one stream. All of them are read as the same target, so that none of them is a
way around a rule. -/
namespace GuestNet

namespace Text

theorem trim_of_ends {s : List Char} (hfirst : ∀ c ∈ s.head?, isBlank c = false)
    (hlast : ∀ c ∈ s.getLast?, isBlank c = false) : trim s = s := by
  have hstart : trimStart s = s := by
    cases s with
    | nil => rfl
    | cons c rest => exact trimStart_cons_of_not_isBlank (hfirst c rfl) rest
  rw [trim, hstart]
  rcases List.eq_nil_or_concat s with rfl | ⟨init, c, rfl⟩
  · rfl
  · rw [List.concat_eq_append]
    exact trimEnd_concat_of_not_isBlank (hlast c (by simp)) init

end Text

namespace Target

/-- What can stand for a stream without any scheme. -/
structure IsStreamAddress (s : List Char) : Prop where
  ne : s ≠ []
  noSlash : '/' ∉ s
  first : ∀ c ∈ s.head?, Text.isBlank c = false
  last : ∀ c ∈ s.getLast?, Text.isBlank c = false

/-- The word in front of a stream, in any letter case. -/
def IsStreamWord (word : List Char) : Prop := lowerCase word = streamScheme.toList

/-- The ways to write a stream. -/
inductive StreamSpelling (s : List Char) : List Char → Prop where
  | bare : StreamSpelling s s
  | url {word : List Char} : IsStreamWord word → StreamSpelling s (word ++ separator ++ s)
  | path {word : List Char} {k : Nat} : 1 ≤ k → IsStreamWord word →
      StreamSpelling s (List.replicate k '/' ++ (word ++ '/' :: s))
  | padded {front back text : List Char} : front.all Text.isBlank = true →
      back.all Text.isBlank = true → StreamSpelling s text →
      StreamSpelling s (front ++ text ++ back)

theorem pieces_slash_cons (s : List Char) : pieces ('/' :: s) = pieces s := by
  simp [pieces, List.splitOn_cons_eq_if_modifyHead]

theorem pieces_replicate_append (k : Nat) (s : List Char) :
    pieces (List.replicate k '/' ++ s) = pieces s := by
  induction k with
  | zero => rfl
  | succ k ih =>
    rw [List.replicate_succ, List.cons_append, pieces_slash_cons, ih]

theorem pieces_of_noSlash {s : List Char} (hne : s ≠ []) (hs : '/' ∉ s) : pieces s = [s] := by
  rw [pieces, List.splitOn_eq_singleton hs]
  simp [hne]

theorem pieces_append_slash {s t : List Char} (hne : s ≠ []) (hs : '/' ∉ s) :
    pieces (s ++ '/' :: t) = s :: pieces t := by
  rw [pieces, List.splitOn_append_cons_self, List.splitOn_eq_singleton hs]
  simp [pieces, hne]

/-- A text needs two slashes for a separator. -/
theorem not_infix_of_count {s : List Char} (h : s.count '/' ≤ 1) : ¬ separator <:+: s := by
  intro hs
  have hcount := hs.sublist.count_le '/'
  have htwo : separator.count '/' = 2 := by decide
  omega

theorem infix_of_replicate_append {k : Nat} {s : List Char}
    (h : separator <:+: List.replicate k '/' ++ s) : separator <:+: s := by
  induction k with
  | zero => exact h
  | succ k ih =>
    rw [List.replicate_succ, List.cons_append] at h
    rcases List.infix_cons_iff.mp h with ⟨tail, htail⟩ | hrest
    · cases htail
    · exact ih hrest

namespace IsStreamWord

variable {word : List Char}

theorem noSlash (h : IsStreamWord word) : '/' ∉ word := by
  intro hm
  have hlower : '/'.toLower ∈ streamScheme.toList := h ▸ List.mem_map_of_mem hm
  exact absurd hlower (by decide)

theorem ne (h : IsStreamWord word) : word ≠ [] := by
  rintro rfl
  cases h

theorem first (h : IsStreamWord word) : ∀ c ∈ word.head?, Text.isBlank c = false := by
  intro c hc
  obtain ⟨rest, rfl⟩ := List.head?_eq_some_iff.mp hc
  have hlower : c.toLower = 't' := (List.cons.inj h).1
  have hn : 116 = if 65 ≤ c.toNat ∧ c.toNat ≤ 90 then c.toNat + 32 else c.toNat := by
    rw [← toNat_toLower, hlower]
    rfl
  refine Bool.eq_false_iff.mpr fun hblank => ?_
  simp only [Text.isBlank, Bool.or_eq_true, Bool.and_eq_true, decide_eq_true_eq,
    beq_iff_eq] at hblank
  split at hn <;> omega

theorem ofList_eq (h : IsStreamWord word) : String.ofList (lowerCase word) = streamScheme := by
  rw [h, String.ofList_toList]

theorem splitsAt (h : IsStreamWord word) (s : List Char) :
    SplitsAt (word ++ separator ++ s) word s := by
  refine ⟨rfl, not_infix_of_count ?_⟩
  rw [List.count_append, List.count_eq_zero.mpr h.noSlash]
  decide

end IsStreamWord

variable {s text : List Char}

theorem IsStreamAddress.count_cons (hs : IsStreamAddress s) {word : List Char}
    (hw : IsStreamWord word) : (word ++ '/' :: s).count '/' ≤ 1 := by
  rw [List.count_append, List.count_cons_self, List.count_eq_zero.mpr hw.noSlash,
    List.count_eq_zero.mpr hs.noSlash]

/-- Each spelling of a stream denotes it. -/
theorem StreamSpelling.denotes (hs : IsStreamAddress s) (h : StreamSpelling s text) :
    ∃ raw, Denotes (Text.trim text) ⟨streamScheme, String.ofList s, raw⟩ := by
  have hlast (front : List Char) : ∀ c ∈ (front ++ s).getLast?, Text.isBlank c = false := by
    rw [List.getLast?_append_of_ne_nil _ hs.ne]
    exact hs.last
  induction h with
  | bare =>
    rw [Text.trim_of_ends hs.first hs.last]
    refine ⟨_, .stream ?_ hs.ne ?_⟩
    · apply not_infix_of_count
      rw [List.count_eq_zero.mpr hs.noSlash]
      exact Nat.zero_le 1
    · exact fun hhead => hs.noSlash (List.mem_of_mem_head? hhead)
  | @url word hw =>
    have hfirst : ∀ c ∈ (word ++ separator ++ s).head?, Text.isBlank c = false := by
      rw [List.append_assoc, List.head?_append_of_ne_nil _ hw.ne]
      exact hw.first
    rw [Text.trim_of_ends hfirst (hlast _)]
    have hd := Denotes.url (hw.splitsAt s) hw.ne hs.ne
    rw [hw.ofList_eq, if_pos rfl] at hd
    exact ⟨_, hd⟩
  | @path word k hk hw =>
    obtain ⟨k, rfl⟩ := Nat.exists_eq_add_of_le' hk
    have hfirst : ∀ c ∈ (List.replicate (k + 1) '/' ++ (word ++ '/' :: s)).head?,
        Text.isBlank c = false := by
      intro c hc
      obtain rfl := Option.some.inj hc
      rfl
    have htrim : Text.trim (List.replicate (k + 1) '/' ++ (word ++ '/' :: s)) =
        List.replicate (k + 1) '/' ++ (word ++ '/' :: s) := by
      apply Text.trim_of_ends hfirst
      have h := hlast (List.replicate (k + 1) '/' ++ (word ++ ['/']))
      simpa only [List.append_assoc, List.singleton_append] using h
    have hpieces : pieces (List.replicate (k + 1) '/' ++ (word ++ '/' :: s)) = [word, s] := by
      rw [pieces_replicate_append, pieces_append_slash hw.ne hw.noSlash,
        pieces_of_noSlash hs.ne hs.noSlash]
    have hoccurs : ¬ separator <:+: List.replicate (k + 1) '/' ++ (word ++ '/' :: s) :=
      fun h => not_infix_of_count (hs.count_cons hw) (infix_of_replicate_append h)
    rw [htrim]
    have hd := Denotes.path hoccurs rfl hpieces (List.cons_ne_nil s [])
    rw [hw.ofList_eq, List.intercalate_singleton] at hd
    exact ⟨_, hd⟩
  | padded hfront hback _ ih =>
    rw [Text.trim_padded hfront hback]
    exact ih

theorem StreamSpelling.parse_eq_ok (hs : IsStreamAddress s) {raw : String}
    (h : StreamSpelling s raw.toList) :
    ∃ t, parse raw = .ok t ∧ t.scheme = streamScheme ∧ t.address = String.ofList s := by
  obtain ⟨text, hd⟩ := h.denotes hs
  exact ⟨_, parse_of_denotes hd, rfl, rfl⟩

end Target

namespace Endpoint

variable {t t' : Target}

/-- The text of a target shows in errors only. -/
theorem toOption_ofTarget_congr (hscheme : t.scheme = t'.scheme)
    (haddress : t.address = t'.address) : (ofTarget t).toOption = (ofTarget t').toOption := by
  have htext : urlText t = urlText t' := by
    rw [urlText, urlText, hscheme, haddress]
  rw [ofTarget, ofTarget, htext]
  cases Url.parse (urlText t') with
  | error e => rfl
  | ok u =>
    simp only [ofUrl, hscheme, haddress, htext]
    split
    · rfl
    · split <;> rfl

end Endpoint

theorem AccessPolicy.isPermitted_eq_any (p : AccessPolicy) (t : Target) :
    p.isPermitted t = (p.isUnrestricted ||
      (Endpoint.ofTarget t).toOption.any fun e => p.rules.any (·.admits e)) := by
  rw [isPermitted]
  cases Endpoint.ofTarget t <;> rfl

namespace Target

/-- Every spelling of a stream is a target, and the same one up to its text: the endpoint, the rule
that an entry of an allow-list is, and what any policy decides do not depend on the spelling. -/
theorem stream_spellings_agree {s : List Char} (hs : IsStreamAddress s) {raw raw' : String}
    (h : StreamSpelling s raw.toList) (h' : StreamSpelling s raw'.toList) :
    ∃ t t', parse raw = .ok t ∧ parse raw' = .ok t' ∧
      (t.scheme = streamScheme ∧ t.address = String.ofList s) ∧
      (t'.scheme = streamScheme ∧ t'.address = String.ofList s) ∧
      (Endpoint.ofTarget t).toOption = (Endpoint.ofTarget t').toOption ∧
      (Endpoint.parseRule raw).toOption = (Endpoint.parseRule raw').toOption ∧
      ∀ p : AccessPolicy, p.isPermitted t = p.isPermitted t' ∧
        (p.check t = .ok () ↔ p.check t' = .ok ()) := by
  obtain ⟨t, ht, hscheme, haddress⟩ := h.parse_eq_ok hs
  obtain ⟨t', ht', hscheme', haddress'⟩ := h'.parse_eq_ok hs
  have hends : (Endpoint.ofTarget t).toOption = (Endpoint.ofTarget t').toOption :=
    Endpoint.toOption_ofTarget_congr (hscheme.trans hscheme'.symm) (haddress.trans haddress'.symm)
  have hpermitted (p : AccessPolicy) : p.isPermitted t = p.isPermitted t' := by
    rw [p.isPermitted_eq_any, p.isPermitted_eq_any, hends]
  refine ⟨t, t', ht, ht', ⟨hscheme, haddress⟩, ⟨hscheme', haddress'⟩, hends, ?_, fun p => ?_⟩
  · rw [Endpoint.parseRule, Endpoint.parseRule, ht, ht']
    exact hends
  · refine ⟨hpermitted p, ?_⟩
    rw [AccessPolicy.check_eq_ok_iff, AccessPolicy.check_eq_ok_iff, hpermitted p]

/-- A scheme in capitals leads to the same port as a path after spaces and several slashes. -/
theorem stream_spellings_agree_on_port :
    IsStreamAddress "[::1]:7000".toList ∧
      StreamSpelling "[::1]:7000".toList "TCP://[::1]:7000".toList ∧
      StreamSpelling "[::1]:7000".toList " //tCp/[::1]:7000".toList ∧
      ∃ t t', parse "TCP://[::1]:7000" = .ok t ∧ parse " //tCp/[::1]:7000" = .ok t' ∧
        (Endpoint.ofTarget t).toOption = (Endpoint.ofTarget t').toOption ∧
        ∀ p : AccessPolicy, p.isPermitted t = p.isPermitted t' := by
  have hs : IsStreamAddress "[::1]:7000".toList := by
    refine ⟨by decide, by decide, ?_, ?_⟩ <;> rintro c ⟨⟩ <;> rfl
  have hurl : StreamSpelling "[::1]:7000".toList "TCP://[::1]:7000".toList := by
    have hword : lowerCase "TCP".toList = streamScheme.toList := by decide
    exact .url hword
  have hpath : StreamSpelling "[::1]:7000".toList " //tCp/[::1]:7000".toList := by
    have hword : lowerCase "tCp".toList = streamScheme.toList := by decide
    have hblank : [' '].all Text.isBlank = true := by decide
    have hslashes : StreamSpelling "[::1]:7000".toList
        (List.replicate 2 '/' ++ ("tCp".toList ++ '/' :: "[::1]:7000".toList)) :=
      .path (by decide) hword
    have hspace := StreamSpelling.padded hblank List.all_nil hslashes
    exact hspace
  obtain ⟨t, t', ht, ht', -, -, hends, -, hpermitted⟩ := stream_spellings_agree hs hurl hpath
  exact ⟨hs, hurl, hpath, t, t', ht, ht', hends, fun p => (hpermitted p).1⟩

end Target
end GuestNet
