import GuestNet.Proofs.Json.Syntax

/-! A value that nobody asked for is passed over exactly: whatever a tree is written as, with blanks
anywhere and nested to any depth, the reader stands right after it, in the same enclosures. -/
namespace GuestNet.Json

/-! ### Texts -/

theorem IsUnit.hexUnit {u : List Char} {n : Nat} (h : IsUnit u n) (rest : List Char) :
    hexUnit (u ++ rest) = .ok (n, rest) := by
  cases h with
  | mk ha hb hc hd => exact hexUnit_of_hexValue? ha hb hc hd rest

theorem ne_of_lookup_letterEscapes {e c : Char} (h : letterEscapes.lookup e = some c) :
    e ≠ 'u' := by
  rintro rfl
  cases h

theorem skipEscape_letter {e c : Char} (h : letterEscapes.lookup e = some c) (rest : List Char) :
    skipEscape (e :: rest) = .ok rest := by
  simp [skipEscape, ne_of_lookup_letterEscapes h, h]

theorem skipEscape_unit {u : List Char} {n : Nat} (h : IsUnit u n) (rest : List Char) :
    skipEscape ('u' :: (u ++ rest)) = .ok rest := by
  rw [skipEscape, if_pos rfl, h.hexUnit]
  rfl

theorem skipText_of_escape {s rest : List Char} (h : skipEscape s = .ok rest) :
    skipText ('\\' :: s) = skipText rest := by
  rw [skipText]
  grind

theorem IsText.skipText {s : List Char} (h : IsText s) (rest : List Char) :
    skipText (s ++ '"' :: rest) = .ok rest := by
  induction h with
  | nil => rw [List.nil_append, Json.skipText]
  | plain hquote hback hcontrol _ ih =>
    rw [List.cons_append, Json.skipText]
    · rw [if_neg hcontrol, ih]
    · exact hquote
    · exact hback
  | letter he _ ih =>
    rw [List.cons_append, List.cons_append, skipText_of_escape (skipEscape_letter he _), ih]
  | unit hu _ ih =>
    rw [List.cons_append, List.cons_append, List.append_assoc,
      skipText_of_escape (skipEscape_unit hu _), ih]

/-! ### Numbers -/

/-- Digits end before what is no digit. -/
theorem AreDigits.splitDigits {ds rest : List Char} (h : AreDigits ds)
    (hrest : ∀ c ∈ rest.head?, c.isDigit = false) :
    Number.splitDigits (ds ++ rest) = (ds, rest) :=
  Number.splitDigits_append h.2 hrest

theorem exponentSign_append {sign ds : List Char} (hsign : sign ∈ [[], ['+'], ['-']])
    (hds : AreDigits ds) (rest : List Char) :
    (Number.exponentSign (sign ++ (ds ++ rest))).2 = ds ++ rest := by
  obtain ⟨c, ds, rfl, hc⟩ := hds.exists_cons
  have hplus : c ≠ '+' := ne_of_isDigit hc rfl
  have hminus : c ≠ '-' := ne_of_isDigit hc rfl
  simp only [List.mem_cons, List.not_mem_nil, or_false] at hsign
  rcases hsign with rfl | rfl | rfl
  · simp [Number.exponentSign, hplus, hminus]
  · rfl
  · rfl

theorem ne_of_isExponentMark {c d : Char} (hc : Number.isExponentMark c = true)
    (hd : Number.isExponentMark d = false) : c ≠ d := by
  rintro rfl
  cases hc.symm.trans hd

theorem isDigit_of_isExponentMark {c : Char} (hc : Number.isExponentMark c = true) :
    c.isDigit = false := by
  simp only [Number.isExponentMark, Bool.or_eq_true, decide_eq_true_eq] at hc
  rcases hc with rfl | rfl <;> rfl

/-- What is left of a number after its places starts with no digit and no point. -/
theorem IsExponent.head {e rest : List Char} (h : IsExponent e) (hr : MayFollow rest) :
    ∀ c ∈ (e ++ rest).head?, c.isDigit = false ∧ c ≠ '.' := by
  cases h with
  | absent => exact fun c hc => ⟨(hr.ends_number c hc).1, (hr.ends_number c hc).2.1⟩
  | present hmark =>
    rintro c ⟨⟩
    exact ⟨isDigit_of_isExponentMark hmark, ne_of_isExponentMark hmark rfl⟩

theorem ArePlaces.head {p rest : List Char} (h : ArePlaces p)
    (hr : ∀ c ∈ rest.head?, c.isDigit = false) : ∀ c ∈ (p ++ rest).head?, c.isDigit = false := by
  cases h with
  | absent => exact hr
  | present =>
    rintro c ⟨⟩
    rfl

theorem IsExponent.skipExponentPart {e rest : List Char} (h : IsExponent e)
    (hr : MayFollow rest) : skipExponentPart (e ++ rest) = .ok rest := by
  cases h with
  | absent =>
    cases rest with
    | nil => rfl
    | cons c rest =>
      have hc : Number.isExponentMark c = false := (hr.ends_number c rfl).2.2
      simp [Json.skipExponentPart, hc]
  | present hmark hsign hds =>
    have hsplit := hds.splitDigits fun c hc => (hr.ends_number c hc).1
    rw [List.cons_append, List.append_assoc, Json.skipExponentPart, if_pos hmark, skipExponent,
      exponentSign_append hsign hds, hsplit]
    split
    · rename_i heq
      exact absurd (Prod.mk.inj heq).1 hds.1
    · rename_i heq
      rw [(Prod.mk.inj heq).2]

theorem IsMagnitude.skipNumber {s rest : List Char} (h : IsMagnitude s) (hr : MayFollow rest) :
    skipNumber (s ++ rest) = .ok rest := by
  cases h with
  | @mk whole places exponent hwhole hzero hplaces hexponent =>
    have hhead := hexponent.head hr
    have hsplit := hwhole.splitDigits (hplaces.head fun c hc => (hhead c hc).1)
    rw [List.append_assoc, List.append_assoc, Json.skipNumber, hsplit]
    split
    · rename_i heq
      exact absurd (Prod.mk.inj heq).1 hwhole.1
    · rename_i heq
      exact absurd (Prod.mk.inj heq).1 (hzero _ _)
    · rename_i heq
      obtain ⟨rfl, rfl⟩ := Prod.mk.inj heq
      cases hplaces with
      | absent =>
        rw [List.nil_append]
        split
        · rename_i hpoint
          rw [hpoint] at hhead
          exact absurd rfl (hhead _ rfl).2
        · exact hexponent.skipExponentPart hr
      | present hds =>
        have hplaces := hds.splitDigits fun c hc => (hhead c hc).1
        simp only [List.cons_append, hplaces]
        split
        · rename_i heq
          exact absurd (Prod.mk.inj heq).1 hds.1
        · rename_i heq
          rw [← (Prod.mk.inj heq).2]
          exact hexponent.skipExponentPart hr

/-! ### Scalars -/

theorem skipScalar_of_isDigit {c : Char} (hc : c.isDigit = true) (rest : List Char) :
    skipScalar (c :: rest) = skipNumber (c :: rest) := by
  have hne (d : Char) (hd : d.isDigit = false) : c ≠ d := ne_of_isDigit hc hd
  rw [skipScalar]
  · rw [if_pos hc]
  · exact hne _ rfl
  · exact hne _ rfl
  · exact hne _ rfl
  · exact hne _ rfl
  · exact hne _ rfl

theorem IsScalar.skipScalar {s rest : List Char} (h : IsScalar s) (hr : MayFollow rest) :
    skipScalar (s ++ rest) = .ok rest := by
  cases h with
  | null => rfl
  | flag b => cases b <;> rfl
  | positive h =>
    obtain ⟨c, s, rfl, hc⟩ := h.exists_cons
    rw [List.cons_append, skipScalar_of_isDigit hc]
    exact h.skipNumber hr
  | negative h => exact h.skipNumber hr
  | text h =>
    have hskip := h.skipText rest
    rw [List.cons_append, List.append_assoc]
    exact hskip

/-! ### Steps -/

theorem skipFrom_of_more {state state' : SkipState} {es es' : List Enclosure} {s s' : List Char}
    (h : skipStep state es s = .ok (.more state' es' s')) :
    skipFrom state es s = skipFrom state' es' s' := by
  rw [skipFrom]
  grind

theorem skipFrom_item_nil (s : List Char) : skipFrom .item [] s = .ok s := by
  have h : skipStep .item [] s = .ok (.done s) := rfl
  rw [skipFrom]
  grind

/-- Where a reader stands before an item, or a member, of an enclosure. -/
def stateBefore (isFirst : Bool) : SkipState := if isFirst then .opened else .item

theorem skipStep_closing (isFirst : Bool) (e : Enclosure) (es : List Enclosure) {b : List Char}
    (hb : AreBlanks b) (rest : List Char) :
    skipStep (stateBefore isFirst) (e :: es) (b ++ e.closing :: rest) =
      .ok (.more .item es rest) := by
  have hclosing : isBlank e.closing = false := by
    cases e <;> rfl
  have hskip : skipBlanks (b ++ e.closing :: rest) = e.closing :: rest := by
    rw [skipBlanks_append hb, skipBlanks_cons hclosing]
  cases isFirst <;> simp [skipStep, stateBefore, hskip]

/-- A separator takes the reader to the place of the next value, or of its key. -/
theorem IsSeparator.skipStep {isFirst : Bool} {sep : List Char} (h : IsSeparator isFirst sep)
    (e : Enclosure) (es : List Enclosure) {c : Char} (hc : startsValue c = true)
    (rest : List Char) :
    ∃ b, AreBlanks b ∧ skipStep (stateBefore isFirst) (e :: es) (sep ++ c :: rest) =
      (skipToValue e (b ++ c :: rest)).map (.more .value (e :: es)) := by
  cases h with
  | first hb =>
    have hskip : skipBlanks (sep ++ c :: rest) = c :: rest := by
      rw [skipBlanks_append hb, skipBlanks_cons (isBlank_of_startsValue hc)]
    have hclosing : c ≠ e.closing := by
      cases e <;> exact ne_of_startsValue hc rfl
    refine ⟨[], areBlanks_nil, ?_⟩
    simp [Json.skipStep, stateBefore, hskip, hclosing]
  | @comma b b' hb hb' =>
    have hskip : skipBlanks (b ++ ',' :: (b' ++ c :: rest)) = ',' :: (b' ++ c :: rest) := by
      rw [skipBlanks_append hb, skipBlanks_cons rfl]
    have hclosing : ',' ≠ e.closing := by
      cases e <;> decide
    refine ⟨b', hb', ?_⟩
    simp [Json.skipStep, stateBefore, hskip, hclosing]

theorem colon_append {b : List Char} (hb : AreBlanks b) (rest : List Char) :
    colon (b ++ ':' :: rest) = .ok rest := by
  rw [colon, skipBlanks_append hb]
  rfl

theorem skipKey_append {b key b' : List Char} (hb : AreBlanks b) (hkey : IsText key)
    (hb' : AreBlanks b') (rest : List Char) :
    skipKey (b ++ '"' :: (key ++ '"' :: (b' ++ ':' :: rest))) = .ok rest := by
  rw [skipKey, skipBlanks_append hb, skipBlanks_cons rfl]
  simp only [hkey.skipText, colon_append hb']

/-- A scalar is passed over in one step. -/
theorem IsScalar.skipStep {b s rest : List Char} (h : IsScalar s) (hb : AreBlanks b)
    (hr : MayFollow rest) (es : List Enclosure) :
    skipStep .value es (b ++ (s ++ rest)) = .ok (.more .item es rest) := by
  have hskip := Writes.skipBlanks_append (.scalar h) hb rest
  have hscalar := h.skipScalar hr
  obtain ⟨c, s, rfl, -, hlist, hobject⟩ := h.exists_cons
  rw [List.cons_append] at hskip hscalar
  simp [Json.skipStep, hskip, hlist, hobject, hscalar]
  rfl

mutual

theorem Writes.skipFrom {t : Tree} {b s rest : List Char} (h : Writes t s) (hb : AreBlanks b)
    (hr : MayFollow rest) (es : List Enclosure) :
    skipFrom .value es (b ++ (s ++ rest)) = skipFrom .item es rest := by
  have hskip := h.skipBlanks_append hb rest
  cases h with
  | scalar h => exact skipFrom_of_more (h.skipStep hb hr es)
  | @list _ s h =>
    have hopen : Json.skipStep .value es (b ++ ('[' :: (s ++ [']']) ++ rest)) =
        .ok (.more (stateBefore true) (.list :: es) (s ++ [']'] ++ rest)) := by
      rw [Json.skipStep, hskip]
      rfl
    rw [skipFrom_of_more hopen, List.append_assoc]
    exact h.skipFrom rest es
  | @object _ s h =>
    have hopen : Json.skipStep .value es (b ++ ('\x7b' :: (s ++ ['\x7d']) ++ rest)) =
        .ok (.more (stateBefore true) (.object :: es) (s ++ ['\x7d'] ++ rest)) := by
      rw [Json.skipStep, hskip]
      rfl
    rw [skipFrom_of_more hopen, List.append_assoc]
    exact h.skipFrom rest es

theorem WritesItems.skipFrom {isFirst : Bool} {ts : List Tree} {s : List Char}
    (h : WritesItems isFirst ts s) (rest : List Char) (es : List Enclosure) :
    skipFrom (stateBefore isFirst) (.list :: es) (s ++ ']' :: rest) = skipFrom .item es rest := by
  cases h with
  | nil hb => exact skipFrom_of_more (skipStep_closing isFirst .list es hb rest)
  | @cons _ _ _ sep s s' hsep ht hts =>
    have hvalue (b : List Char) (hb : AreBlanks b) :=
      ht.skipFrom hb (hts.mayFollow rest) (.list :: es)
    obtain ⟨c, s, rfl, hc⟩ := ht.exists_cons
    obtain ⟨b, hb, hstep⟩ := hsep.skipStep .list es hc (s ++ (s' ++ ']' :: rest))
    rw [List.append_assoc, List.append_assoc, List.cons_append, skipFrom_of_more hstep,
      ← List.cons_append, hvalue b hb]
    exact hts.skipFrom rest es

theorem WritesMembers.skipFrom {isFirst : Bool} {ms : List (List Char × Tree)} {s : List Char}
    (h : WritesMembers isFirst ms s) (rest : List Char) (es : List Enclosure) :
    skipFrom (stateBefore isFirst) (.object :: es) (s ++ '\x7d' :: rest) =
      skipFrom .item es rest := by
  cases h with
  | nil hb => exact skipFrom_of_more (skipStep_closing isFirst .object es hb rest)
  | @cons _ key _ _ sep b b' s s' hsep hkey hb hb' ht hms =>
    obtain ⟨b₀, hb₀, hstep⟩ := hsep.skipStep .object es (c := '"') rfl
      (key ++ '"' :: (b ++ ':' :: (b' ++ (s ++ (s' ++ '\x7d' :: rest)))))
    have hkeyed := skipKey_append hb₀ hkey hb (b' ++ (s ++ (s' ++ '\x7d' :: rest)))
    rw [skipToValue, hkeyed] at hstep
    have hs : sep ++ '"' :: (key ++ '"' :: (b ++ ':' :: (b' ++ (s ++ s')))) ++ '\x7d' :: rest =
        sep ++ '"' :: (key ++ '"' :: (b ++ ':' :: (b' ++ (s ++ (s' ++ '\x7d' :: rest))))) := by
      simp
    rw [hs, skipFrom_of_more hstep, ht.skipFrom hb' (hms.mayFollow rest) (.object :: es)]
    exact hms.skipFrom rest es

end

/-- Passing over a value leaves what follows it. -/
theorem Writes.skipValue {t : Tree} {b s rest : List Char} (h : Writes t s) (hb : AreBlanks b)
    (hr : MayFollow rest) : skipValue (b ++ (s ++ rest)) = .ok rest := by
  rw [Json.skipValue, h.skipFrom hb hr, skipFrom_item_nil]

end GuestNet.Json
