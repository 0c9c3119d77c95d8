import GuestNet.Proofs.Json.Skipping

/-! The reader of texts gives the characters for which a text stands, and fails on a text that
stands for none, whatever follows it. So a key has a name, or none, by itself. -/
namespace GuestNet.Json

theorem text_go_of_escape {s rest done : List Char} {c : Char} (h : escape s = .ok (c, rest)) :
    text.go ('\\' :: s) done = text.go rest (c :: done) := by
  rw [text.go]
  grind

theorem text_go_of_escape_error {s done : List Char} {e : Fault} (h : escape s = .error e) :
    text.go ('\\' :: s) done = .error e := by
  rw [text.go]
  grind

theorem text_go_plain {c : Char} (hquote : c ≠ '"') (hback : c ≠ '\\') (hcontrol : ¬ c.toNat < 0x20)
    (rest done : List Char) : text.go (c :: rest) done = text.go rest (c :: done) := by
  rw [text.go]
  · rw [if_neg hcontrol]
  · exact hquote
  · exact hback

theorem escape_letter {e c : Char} (h : letterEscapes.lookup e = some c) (rest : List Char) :
    escape (e :: rest) = .ok (c, rest) := by
  simp [escape, ne_of_lookup_letterEscapes h, h]

namespace IsUnit

variable {u u' rest : List Char} {n n' : Nat}

theorem escape (h : IsUnit u n) (hleading : isLeading n = false) (htrailing : isTrailing n = false)
    (rest : List Char) : escape ('u' :: (u ++ rest)) = .ok (Char.ofNat n, rest) := by
  simp [Json.escape, unicodeEscape, h.hexUnit, hleading, htrailing]

theorem escape_trailing (h : IsUnit u n) (htrailing : isTrailing n = true) (rest : List Char) :
    ∃ e, Json.escape ('u' :: (u ++ rest)) = .error e := by
  simp [Json.escape, unicodeEscape, h.hexUnit, htrailing]

theorem isTrailing_of_isLeading (h : isLeading n = true) : isTrailing n = false := by
  simp only [isLeading, isTrailing, Bool.and_eq_true, decide_eq_true_eq,
    Bool.and_eq_false_iff, decide_eq_false_iff_not] at h ⊢
  omega

/-- The first half of a pair leaves it to what follows. -/
theorem escape_leading (h : IsUnit u n) (hleading : isLeading n = true) (rest : List Char) :
    Json.escape ('u' :: (u ++ rest)) = trailingUnit n rest := by
  simp [Json.escape, unicodeEscape, h.hexUnit, hleading, isTrailing_of_isLeading hleading]

theorem trailingUnit (h : IsUnit u n) (htrailing : isTrailing n = true) (k : Nat)
    (rest : List Char) : trailingUnit k ('\\' :: 'u' :: (u ++ rest)) =
      .ok (Char.ofNat (0x10000 + (k - 0xD800) * 0x400 + (n - 0xDC00)), rest) := by
  simp [Json.trailingUnit, h.hexUnit, htrailing]

theorem trailingUnit_error (h : IsUnit u n) (htrailing : isTrailing n = false) (k : Nat)
    (rest : List Char) : ∃ e, Json.trailingUnit k ('\\' :: 'u' :: (u ++ rest)) = .error e := by
  simp [Json.trailingUnit, h.hexUnit, htrailing]

end IsUnit

theorem trailingUnit_plain {c : Char} (hback : c ≠ '\\') (k : Nat) (rest : List Char) :
    ∃ e, trailingUnit k (c :: rest) = .error e := by
  unfold trailingUnit
  split
  · exact ⟨_, rfl⟩
  · exact ⟨_, rfl⟩
  · rename_i heq
    exact absurd (List.cons.inj heq).1 hback
  · exact ⟨_, rfl⟩
  · exact ⟨_, rfl⟩

theorem trailingUnit_letter {c : Char} (hc : c ≠ 'u') (k : Nat) (rest : List Char) :
    ∃ e, trailingUnit k ('\\' :: c :: rest) = .error e := by
  unfold trailingUnit
  split
  · exact ⟨_, rfl⟩
  · exact ⟨_, rfl⟩
  · rename_i heq
    exact absurd (List.cons.inj (List.cons.inj heq).2).1 hc
  · exact ⟨_, rfl⟩
  · exact ⟨_, rfl⟩

theorem Spells.isText {s t : List Char} (h : Spells s t) : IsText s := by
  induction h with
  | nil => exact .nil
  | plain hquote hback hcontrol _ ih => exact .plain hquote hback hcontrol ih
  | letter he _ ih => exact .letter he ih
  | unit hu _ _ _ ih => exact .unit hu ih
  | pair hu _ hu' _ _ ih => exact .unit hu (.unit hu' ih)

def needsNoEscape (c : Char) : Bool := c ≠ '"' && c ≠ '\\' && 0x20 ≤ c.toNat

/-- Characters that need no escape are spelled as themselves. -/
theorem Spells.of_plain {s : List Char} (h : s.all needsNoEscape = true) : Spells s s := by
  induction s with
  | nil => exact .nil
  | cons c s ih =>
    rw [List.all_cons, Bool.and_eq_true] at h
    have hc := h.1
    simp only [needsNoEscape, ne_eq, Bool.and_eq_true, decide_eq_true_eq] at hc
    exact .plain hc.1.1 hc.1.2 (Nat.not_lt.mpr hc.2) (ih h.2)

theorem Spells.text_go {s t : List Char} (h : Spells s t) (rest done : List Char) :
    text.go (s ++ '"' :: rest) done = .ok (String.ofList (done.reverse ++ t), rest) := by
  induction h generalizing done with
  | nil => rw [List.nil_append, Json.text.go, List.append_nil]
  | plain hquote hback hcontrol _ ih =>
    rw [List.cons_append, text_go_plain hquote hback hcontrol, ih, List.reverse_cons,
      List.append_assoc, List.singleton_append]
  | letter he _ ih =>
    rw [List.cons_append, List.cons_append, text_go_of_escape (escape_letter he _), ih,
      List.reverse_cons, List.append_assoc, List.singleton_append]
  | unit hu hleading htrailing _ ih =>
    rw [List.cons_append, List.cons_append, List.append_assoc,
      text_go_of_escape (hu.escape hleading htrailing _), ih, List.reverse_cons,
      List.append_assoc, List.singleton_append]
  | @pair u u' s t n n' hu hleading hu' htrailing _ ih =>
    have hescape := hu.escape_leading hleading ('\\' :: 'u' :: (u' ++ (s ++ '"' :: rest)))
    rw [hu'.trailingUnit htrailing] at hescape
    simp only [List.cons_append, List.append_assoc]
    rw [text_go_of_escape hescape, ih, List.reverse_cons, List.append_assoc,
      List.singleton_append]

theorem Spells.text {s t : List Char} (h : Spells s t) (rest : List Char) :
    text (s ++ '"' :: rest) = .ok (String.ofList t, rest) :=
  h.text_go rest []

/-- The reader fails inside the text, and not because of what follows it. -/
def Fails (s : List Char) : Prop :=
  ∀ rest done, ∃ e, text.go (s ++ '"' :: rest) done = .error e

theorem Fails.of_escape {s : List Char}
    (h : ∀ rest, ∃ e, escape (s ++ '"' :: rest) = .error e) : Fails ('\\' :: s) := by
  intro rest done
  obtain ⟨e, he⟩ := h rest
  exact ⟨e, text_go_of_escape_error he⟩

theorem Fails.of_leading {u s : List Char} {n : Nat} (hu : IsUnit u n)
    (hleading : isLeading n = true)
    (h : ∀ rest, ∃ e, trailingUnit n (s ++ '"' :: rest) = .error e) :
    Fails ('\\' :: 'u' :: (u ++ s)) := by
  apply Fails.of_escape
  intro rest
  rw [List.cons_append, List.append_assoc, hu.escape_leading hleading]
  exact h rest

/-- A text has a meaning, or its reader fails inside it. -/
def IsDecided (s : List Char) : Prop := (∃ t, Spells s t) ∨ Fails s

/-- So it is with one more character in front, however that is spelled. -/
theorem IsDecided.of_step {s s' : List Char} {c : Char} (h : IsDecided s)
    (hspells : ∀ t, Spells s t → Spells s' (c :: t))
    (hstep : ∀ rest done,
      text.go (s' ++ '"' :: rest) done = text.go (s ++ '"' :: rest) (c :: done)) :
    IsDecided s' := by
  rcases h with ⟨t, ht⟩ | hf
  · exact .inl ⟨c :: t, hspells t ht⟩
  · refine .inr fun rest done => ?_
    rw [hstep]
    exact hf rest (c :: done)

theorem IsDecided.pair {u u' s : List Char} {n n' : Nat} (h : IsDecided s) (hu : IsUnit u n)
    (hleading : isLeading n = true) (hu' : IsUnit u' n') (htrailing : isTrailing n' = true) :
    IsDecided ('\\' :: 'u' :: (u ++ '\\' :: 'u' :: (u' ++ s))) := by
  refine h.of_step (fun t ht => .pair hu hleading hu' htrailing ht) fun rest done => ?_
  have hescape := hu.escape_leading hleading ('\\' :: 'u' :: (u' ++ (s ++ '"' :: rest)))
  rw [hu'.trailingUnit htrailing] at hescape
  simp only [List.cons_append, List.append_assoc]
  exact text_go_of_escape hescape

/-- The first half of a pair is read with what follows it inside the text, so the induction is on
the text by itself and after such a half. -/
theorem IsText.isDecided_and {s : List Char} (h : IsText s) :
    IsDecided s ∧ ∀ {u : List Char} {n : Nat}, IsUnit u n → isLeading n = true →
      IsDecided ('\\' :: 'u' :: (u ++ s)) := by
  induction h with
  | nil =>
    refine ⟨.inl ⟨[], .nil⟩, fun hu hleading => .inr (.of_leading hu hleading fun rest => ?_)⟩
    exact trailingUnit_plain (by decide) _ rest
  | plain hquote hback hcontrol _ ih =>
    refine ⟨ih.1.of_step (fun t ht => .plain hquote hback hcontrol ht) fun rest done => ?_,
      fun hu hleading => .inr (.of_leading hu hleading fun rest => ?_)⟩
    · exact text_go_plain hquote hback hcontrol _ done
    · exact trailingUnit_plain hback _ _
  | letter he _ ih =>
    refine ⟨ih.1.of_step (fun t ht => .letter he ht) fun rest done => ?_,
      fun hu hleading => .inr (.of_leading hu hleading fun rest => ?_)⟩
    · exact text_go_of_escape (escape_letter he _)
    · exact trailingUnit_letter (ne_of_lookup_letterEscapes he) _ _
  | @unit u s n hu _ ih =>
    rcases htrailing : isTrailing n with _ | _
    · constructor
      · rcases hleading : isLeading n with _ | _
        · refine ih.1.of_step (fun t ht => .unit hu hleading htrailing ht) fun rest done => ?_
          rw [List.cons_append, List.cons_append, List.append_assoc]
          exact text_go_of_escape (hu.escape hleading htrailing _)
        · exact ih.2 hu hleading
      · refine fun hu' hleading => .inr (.of_leading hu' hleading fun rest => ?_)
        rw [List.cons_append, List.cons_append, List.append_assoc]
        exact hu.trailingUnit_error htrailing _ _
    · refine ⟨.inr (.of_escape fun rest => ?_), fun hu' hleading => ?_⟩
      · rw [List.cons_append, List.append_assoc]
        exact hu.escape_trailing htrailing _
      · exact ih.1.pair hu' hleading hu htrailing

theorem IsText.isDecided {s : List Char} (h : IsText s) : IsDecided s := h.isDecided_and.1

theorem Spells.unique {s t t' : List Char} (h : Spells s t) (h' : Spells s t') : t = t' := by
  have heq := (h.text []).symm.trans (h'.text [])
  exact String.ofList_inj.mp (Prod.mk.inj (Except.ok.inj heq)).1

open Classical in
/-- The name for which a key stands, if it stands for one. -/
noncomputable def keyName? (key : List Char) : Option String :=
  if h : ∃ t, Spells key t then some (String.ofList h.choose) else none

theorem keyName?_eq_some_iff {key : List Char} {name : String} :
    keyName? key = some name ↔ Spells key name.toList := by
  unfold keyName?
  split
  · rename_i h
    constructor
    · intro hname
      rw [← Option.some.inj hname, String.toList_ofList]
      exact h.choose_spec
    · intro hname
      rw [h.choose_spec.unique hname, String.ofList_toList]
  · rename_i h
    exact ⟨nofun, fun hname => absurd ⟨_, hname⟩ h⟩

/-- A key reads as its name, whatever follows it. -/
theorem IsText.toOption_text {key : List Char} (h : IsText key) (rest : List Char) :
    (text (key ++ '"' :: rest)).toOption = (keyName? key).map (·, rest) := by
  rcases h.isDecided with ⟨t, ht⟩ | hf
  · have hname : keyName? key = some (String.ofList t) := by
      rw [keyName?_eq_some_iff, String.toList_ofList]
      exact ht
    rw [ht.text, hname]
    rfl
  · obtain ⟨e, he⟩ := hf rest []
    have hname : keyName? key = none := by
      cases hname : keyName? key with
      | none => rfl
      | some name =>
        have htext := (keyName?_eq_some_iff.mp hname).text_go rest []
        cases htext.symm.trans he
    rw [text, he, hname]
    rfl

end GuestNet.Json
