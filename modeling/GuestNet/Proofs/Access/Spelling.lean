import Mathlib.Data.List.Infix
import GuestNet.Target

/-! The ways to write a target that is no stream. As `scheme://…` it is its own address, and as a
path its address has no scheme in it. -/
namespace GuestNet.Target

/-- The target is written as `scheme://…`. -/
def IsUrlText (raw : String) : Prop := (splitScheme? (Text.trim raw.toList)).isSome = true

theorem isSome_splitScheme?_iff {s : List Char} :
    (splitScheme? s).isSome = true ↔ [':', '/', '/'] <:+: s := by
  fun_induction splitScheme? s with
  | case1 rest => exact iff_of_true rfl (List.prefix_append [':', '/', '/'] rest).isInfix
  | case2 => simp
  | case3 c rest hne ih =>
    rw [Option.isSome_map, ih, List.infix_cons_iff]
    refine ⟨.inr, fun h => h.resolve_left ?_⟩
    rintro ⟨tail, ht⟩
    cases ht
    exact hne tail rfl rfl

theorem not_mem_of_mem_splitOn {c : Char} {s p : List Char} (hp : p ∈ s.splitOn c) : c ∉ p := by
  induction s generalizing p with
  | nil =>
    rw [List.splitOn_nil, List.mem_singleton] at hp
    simp [hp]
  | cons d s ih =>
    rw [List.splitOn_cons_eq_if_modifyHead] at hp
    split at hp
    · rcases List.mem_cons.mp hp with rfl | hp
      · exact List.not_mem_nil
      · exact ih hp
    · rename_i hd
      cases hs : s.splitOn c with
      | nil => exact absurd hs (List.splitOn_ne_nil c s)
      | cons q qs =>
        rw [hs] at hp
        rcases List.mem_cons.mp hp with rfl | hp
        · have hq := ih (hs ▸ List.mem_cons_self)
          exact fun hc => (List.mem_cons.mp hc).elim (fun he => hd (by simp [he])) hq
        · exact ih (hs ▸ List.mem_cons_of_mem q hp)

theorem of_mem_pieces {s p : List Char} (hp : p ∈ pieces s) : p ≠ [] ∧ '/' ∉ p := by
  rw [pieces, List.mem_filter] at hp
  exact ⟨by simpa using hp.2, not_mem_of_mem_splitOn hp.1⟩

/-- Between the pieces of a path there is one slash at a time. -/
theorem not_infix_intercalate {parts : List (List Char)}
    (hp : ∀ p ∈ parts, p ≠ [] ∧ '/' ∉ p) : ¬ [':', '/', '/'] <:+: ['/'].intercalate parts := by
  rintro ⟨left, right, he⟩
  have hne : parts ≠ [] := by
    rintro rfl
    simp at he
  have hs := List.splitOn_intercalate '/' (fun p h => (hp p h).2) hne
  have hmem : [] ∈ (left ++ [':'] ++ '/' :: '/' :: right).splitOn '/' := by
    rw [List.splitOn_append_cons_self, List.splitOn_cons_eq_if_modifyHead]
    simp
  have he' : left ++ [':'] ++ '/' :: '/' :: right = ['/'].intercalate parts := by
    rw [← he]
    simp
  rw [he', hs] at hmem
  exact (hp [] hmem).1 rfl

/-- What a target is that is no stream. -/
theorem parse_eq_ok {raw : String} {t : Target} (ht : parse raw = .ok t)
    (hs : t.scheme ≠ streamScheme) :
    (IsUrlText raw ∧ t.address = String.ofList (Text.trim raw.toList)) ∨
      (¬ IsUrlText raw ∧ ∃ scheme parts, pieces (Text.trim raw.toList) = scheme :: parts ∧
        t.address = String.ofList (['/'].intercalate parts)) := by
  rw [parse] at ht
  cases hsp : splitScheme? (Text.trim raw.toList) with
  | some split =>
    simp only [hsp, ofUrlText] at ht
    split at ht
    · cases ht
    · split at ht
      · cases ht
      · cases ht
        exact .inl ⟨by simp [IsUrlText, hsp], by rw [if_neg hs]⟩
  | none =>
    refine .inr ⟨by simp [IsUrlText, hsp], ?_⟩
    simp only [hsp] at ht
    split at ht
    · cases ht
    · rw [ofPathText] at ht
      split at ht
      · cases ht
      · cases ht
      · rename_i scheme parts _ hp
        cases ht
        exact ⟨scheme, parts, hp, rfl⟩
    · cases ht
      exact absurd rfl hs

/-- A target that is no stream has a scheme in its address just if it is written as
`scheme://…`. -/
theorem isSome_splitScheme?_address {raw : String} {t : Target} (ht : parse raw = .ok t)
    (hs : t.scheme ≠ streamScheme) :
    (splitScheme? t.address.toList).isSome = true ↔ IsUrlText raw := by
  rcases parse_eq_ok ht hs with ⟨hu, ha⟩ | ⟨hu, scheme, parts, hp, ha⟩
  · rw [ha, String.toList_ofList, IsUrlText]
  · refine iff_of_false ?_ hu
    rw [ha, String.toList_ofList, isSome_splitScheme?_iff]
    exact not_infix_intercalate fun p hm => of_mem_pieces (hp ▸ List.mem_cons_of_mem scheme hm)

end GuestNet.Target
