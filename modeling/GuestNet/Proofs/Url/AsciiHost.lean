import Mathlib.Data.Bool.AllAny
import GuestNet.Proofs.Idna.AsciiLabel
import GuestNet.Proofs.Text.Encoding
import GuestNet.Url.Host

/-! Hosts of plain ASCII characters, in which there is nothing to decode. -/
namespace GuestNet.Url

theorem fromUTF8?_flatMap (s : List Char) :
    String.fromUTF8? ⟨(s.flatMap String.utf8EncodeChar).toArray⟩ = some (String.ofList s) :=
  Bytes.decode?_eq_some_iff.mpr (Bytes.ofText_ofList s)

theorem percentDecode_eq_flatMap {s : List Char} (hs : '%' ∉ s) :
    percentDecode s = s.flatMap String.utf8EncodeChar := by
  fun_induction percentDecode s with
  | case1 => rfl
  | case2 => simp at hs
  | case3 => simp at hs
  | case4 c s _ ih => rw [ih fun hm => hs (List.mem_cons_of_mem c hm), List.flatMap_cons]

/-- A host without brackets and percent signs is a name as it stands. -/
theorem decode_of_plain {s : List Char} (hp : '%' ∉ s) :
    String.fromUTF8? ⟨(percentDecode s).toArray⟩ = some (String.ofList s) := by
  rw [percentDecode_eq_flatMap hp, fromUTF8?_flatMap]

theorem domainHost_of_none {s : List Char} (hb : '[' ∉ s) (hp : '%' ∉ s)
    (h : Idna.toAscii? s = none) : domainHost s = .error .invalidDomainName := by
  rw [domainHost, decode_of_plain hp]
  · simp only [String.toList_ofList, h]
  · rintro rest rfl
    exact hb List.mem_cons_self

theorem domainHost_of_name {s name : List Char} (hb : '[' ∉ s) (hp : '%' ∉ s)
    (h : Idna.toAscii? s = some name) (hne : name ≠ []) (hn : Ipv4.endsInNumber name = false) :
    domainHost s = .ok (.domain (String.ofList name)) := by
  rw [domainHost, decode_of_plain hp]
  · cases name with
    | nil => exact absurd rfl hne
    | cons c name => simp only [String.toList_ofList, h, hn, Bool.false_eq_true, if_false]
  · rintro rest rfl
    exact hb List.mem_cons_self

/-- Characters between edges and letters that a name of letters after edges does not have. -/
theorem not_mem_word {junk word : List Char} (hj : ∀ c ∈ junk, c.toNat ≤ 0x20)
    (hw : ∀ c ∈ word, c.isAlpha = true) {d : Char} (hd : 0x20 < d.toNat)
    (ha : d.isAlpha = false) : d ∉ junk ++ word := by
  intro hm
  rcases List.mem_append.mp hm with hm | hm
  · exact absurd (hj d hm) (Nat.not_le.mpr hd)
  · simp [hw d hm] at ha

theorem toAscii?_of_word {junk word : List Char} (hj : ∀ c ∈ junk, c.toNat ≤ 0x20)
    (hw : ∀ c ∈ word, c.isAlpha = true) : Idna.toAscii? (junk ++ word) =
      if ((junk ++ word).map Char.toLower).any Idna.isForbidden then none
      else some ((junk ++ word).map Char.toLower) := by
  have hs : ∀ c ∈ junk ++ word, c.toNat < 0x80 := by
    intro c hm
    rcases List.mem_append.mp hm with hm | hm
    · exact Nat.lt_of_le_of_lt (hj c hm) (by decide)
    · have := isAlpha_iff.mp (hw c hm)
      omega
  refine Idna.toAscii?_of_isAscii hs (not_mem_word hj hw (by decide) (by decide)) fun hp => ?_
  have hm := (List.isPrefixOf_iff_prefix.mp hp).subset (by decide : '-' ∈ Idna.acePrefix)
  obtain ⟨c, hc, he⟩ := List.mem_map.mp hm
  rw [toLower_eq_iff (by decide)] at he
  exact not_mem_word hj hw (by decide) (by decide) (he ▸ hc)

theorem domainHost_of_junk {junk word : List Char} (hne : junk ≠ [])
    (hj : ∀ c ∈ junk, c.toNat ≤ 0x20) (hw : ∀ c ∈ word, c.isAlpha = true) :
    domainHost (junk ++ word) = .error .invalidDomainName := by
  refine domainHost_of_none (not_mem_word hj hw (by decide) (by decide))
    (not_mem_word hj hw (by decide) (by decide)) ((toAscii?_of_word hj hw).trans (if_pos ?_))
  obtain ⟨c, hc⟩ := List.exists_mem_of_ne_nil junk hne
  have hcl : c.toLower = c := toLower_eq_self (Nat.lt_of_le_of_lt (hj c hc) (by decide))
  refine List.any_eq_true.mpr ⟨c, List.mem_map.mpr ⟨c, List.mem_append_left word hc, hcl⟩, ?_⟩
  simp [Idna.isForbidden, hj c hc]

theorem isForbidden_toLower {c : Char} (hc : c.isAlpha = true) :
    Idna.isForbidden c.toLower = false := by
  have hb : 97 ≤ c.toLower.toNat ∧ c.toLower.toNat ≤ 122 := by
    have := isAlpha_iff.mp hc
    rw [toNat_toLower]
    split <;> omega
  have hout : ∀ d ∈ "#/:<>?@[\\]^|%".toList, ¬ (97 ≤ d.toNat ∧ d.toNat ≤ 122) :=
    List.all_iff_forall_prop.mp (by decide)
  rw [Idna.isForbidden, Bool.or_eq_false_iff, Bool.or_eq_false_iff]
  refine ⟨⟨decide_eq_false (by omega), ?_⟩, decide_eq_false fun hm => hout _ hm hb⟩
  rw [beq_eq_false_iff_ne]
  omega

/-- The host of a word of letters is that word in lower case. -/
theorem domainHost_of_word {word : List Char} (hne : word ≠ [])
    (hw : ∀ c ∈ word, c.isAlpha = true)
    (hn : Ipv4.endsInNumber (word.map Char.toLower) = false) :
    domainHost word = .ok (.domain (String.ofList (word.map Char.toLower))) := by
  have hj : ∀ c ∈ ([] : List Char), c.toNat ≤ 0x20 := by simp
  have ha : Idna.toAscii? word = some (word.map Char.toLower) := by
    refine (toAscii?_of_word hj hw).trans (if_neg ?_)
    rw [Bool.not_eq_true, List.any_map]
    exact List.any_eq_false.mpr fun c hc => by simp [isForbidden_toLower (hw c hc)]
  exact domainHost_of_name (not_mem_word hj hw (by decide) (by decide))
    (not_mem_word hj hw (by decide) (by decide)) ha (by simpa using hne) hn

end GuestNet.Url
