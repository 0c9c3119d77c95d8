import GuestNet.Options
import GuestNet.Proofs.Json.Meaning
import Mathlib.Data.List.DropRight

/-! A settled reader makes the same of everything that is written for a tree: one value, after which
it stops, or none. The readers of naturals, times, flags and texts are settled, and so are those of
values that may be absent and of lists of texts. -/
namespace GuestNet.Json

variable {α β : Type} {reader : Reader α}

theorem toOption_map {ε : Type} (x : Except ε α) (f : α → β) :
    (x.map f).toOption = x.toOption.map f := by
  cases x <;> rfl

theorem skipBlanks_skipBlanks (s : List Char) : skipBlanks (skipBlanks s) = skipBlanks s :=
  List.dropWhile_idempotent isBlank s

theorem mayFollow_nil : MayFollow [] := nofun

def Makes (reader : Reader α) (t : Tree) (v : Option α) : Prop :=
  ∀ ⦃b s rest : List Char⦄, AreBlanks b → Writes t s → MayFollow rest →
    (reader (b ++ (s ++ rest))).toOption = v.map (·, rest)

open Classical in
/-- What a reader makes of one of the texts that are written for a tree. -/
noncomputable def value? (reader : Reader α) (t : Tree) : Option α :=
  if h : ∃ s, Writes t s then (reader h.choose).toOption.map (·.1) else none

def Settled (reader : Reader α) : Prop := ∀ t, Makes reader t (value? reader t)

theorem Makes.value? {t : Tree} {v : Option α} (h : Makes reader t v) {s : List Char}
    (hs : Writes t s) : value? reader t = v := by
  have hex : ∃ s, Writes t s := ⟨s, hs⟩
  have hread := h areBlanks_nil hex.choose_spec mayFollow_nil
  rw [List.nil_append, List.append_nil] at hread
  rw [Json.value?, dif_pos hex, hread]
  cases v <;> rfl

theorem Settled.of_makes (h : ∀ t, ∃ v, Makes reader t v) : Settled reader := by
  intro t b s rest hb hs hr
  obtain ⟨v, hv⟩ := h t
  rw [hv.value? hs]
  exact hv hb hs hr

theorem Settled.value?_eq {reader : Reader α} (h : Settled reader) {t : Tree} {s : List Char}
    {v : α} (hs : Writes t s) (hread : reader s = .ok (v, [])) : value? reader t = some v := by
  have hv := h t areBlanks_nil hs mayFollow_nil
  rw [List.nil_append, List.append_nil, hread] at hv
  cases hvalue : value? reader t with
  | none => rw [hvalue] at hv; cases hv
  | some w => rw [hvalue] at hv; cases hv; rfl

/-- A reader that passes over blanks is settled if it is on each kind of value. -/
theorem Settled.of_kinds (hblank : ∀ s, reader (skipBlanks s) = reader s)
    (hscalar : ∀ token, IsScalar token → ∃ v : Option α, ∀ rest, MayFollow rest →
      (reader (token ++ rest)).toOption = v.map (·, rest))
    (hlist : ∀ ts, ∃ v : Option α, ∀ s rest, WritesItems true ts s →
      (reader ('[' :: (s ++ ']' :: rest))).toOption = v.map (·, rest))
    (hobject : ∀ ms, ∃ v : Option α, ∀ s rest, WritesMembers true ms s →
      (reader ('\x7b' :: (s ++ '\x7d' :: rest))).toOption = v.map (·, rest)) :
    Settled reader := by
  apply Settled.of_makes
  intro t
  have hplaced {v : Option α} (h : ∀ s rest, Writes t s → MayFollow rest →
      (reader (s ++ rest)).toOption = v.map (·, rest)) : Makes reader t v := by
    intro b s rest hb hs hr
    rw [← hblank, hs.skipBlanks_append hb]
    exact h s rest hs hr
  cases t with
  | scalar token =>
    by_cases htoken : IsScalar token
    · obtain ⟨v, hv⟩ := hscalar token htoken
      refine ⟨v, hplaced fun s rest hs hr => ?_⟩
      cases hs
      exact hv rest hr
    · refine ⟨none, hplaced fun s rest hs hr => ?_⟩
      cases hs
      contradiction
  | list ts =>
    obtain ⟨v, hv⟩ := hlist ts
    refine ⟨v, hplaced fun s rest hs hr => ?_⟩
    cases hs with
    | list hts =>
      rw [List.cons_append, List.append_assoc]
      exact hv _ rest hts
  | object ms =>
    obtain ⟨v, hv⟩ := hobject ms
    refine ⟨v, hplaced fun s rest hs hr => ?_⟩
    cases hs with
    | object hms =>
      rw [List.cons_append, List.append_assoc]
      exact hv _ rest hms

/-! ### Values made of others -/

theorem value?_map (reader : Reader α) (f : α → β) (t : Tree) :
    value? (fun s => (reader s).map fun (v, rest) => (f v, rest)) t = (value? reader t).map f := by
  unfold value?
  split
  · rw [toOption_map, Option.map_map, Option.map_map]
    rfl
  · rfl

theorem Settled.map (h : Settled reader) (f : α → β) :
    Settled fun s => (reader s).map fun (v, rest) => (f v, rest) := by
  intro t b s rest hb hs hr
  rw [value?_map, toOption_map, h t hb hs hr, Option.map_map, Option.map_map]
  rfl

theorem Writes.head_ne {t : Tree} {s : List Char} (h : Writes t s)
    (ht : t ≠ .null) :
    ∃ c rest, s = c :: rest ∧ isBlank c = false ∧ c ≠ 'n' := by
  cases h with
  | scalar h =>
    cases h with
    | null => exact absurd rfl ht
    | flag b => cases b <;> exact ⟨_, _, rfl, rfl, by decide⟩
    | positive h =>
      obtain ⟨c, rest, rfl, hc⟩ := h.exists_cons
      exact ⟨c, rest, rfl, isBlank_of_isDigit hc, ne_of_isDigit hc rfl⟩
    | negative => exact ⟨_, _, rfl, rfl, by decide⟩
    | text => exact ⟨_, _, rfl, rfl, by decide⟩
  | list => exact ⟨_, _, rfl, rfl, by decide⟩
  | object => exact ⟨_, _, rfl, rfl, by decide⟩

theorem Settled.optional (h : Settled reader) : Settled (optional reader) := by
  apply Settled.of_makes
  intro t
  have hblank (s : List Char) : Json.optional reader (skipBlanks s) = Json.optional reader s := by
    rw [Json.optional, skipBlanks_skipBlanks]
    rfl
  by_cases ht : t = .null
  · subst ht
    refine ⟨some none, fun b s rest hb hs hr => ?_⟩
    rw [← hblank, hs.skipBlanks_append hb]
    cases hs
    rfl
  · refine ⟨(value? reader t).map some, fun b s rest hb hs hr => ?_⟩
    have hread := h t areBlanks_nil hs hr
    rw [← hblank, hs.skipBlanks_append hb]
    obtain ⟨c, s, rfl, hc, hne⟩ := hs.head_ne ht
    rw [List.cons_append, optional_of_ne reader hc hne, toOption_map, ← List.cons_append,
      ← List.nil_append (c :: s ++ rest), hread, Option.map_map, Option.map_map]
    rfl

theorem value?_optional_null {reader : Reader α} (h : Settled reader) :
    value? (optional reader) .null = some none :=
  h.optional.value?_eq writes_null rfl

/-! ### Naturals -/

namespace Number

theorem afterWhole_mark {c : Char} (hc : isExponentMark c = true) (isNegative : Bool) (n : Nat)
    (left rest : List Char) :
    afterWhole isNegative n left (c :: rest) = exponentPart isNegative n left.length rest := by
  unfold afterWhole
  simp only
  split
  · rename_i heq
    exact absurd (List.cons.inj heq).1 (ne_of_isExponentMark hc rfl)
  · rename_i heq
    obtain ⟨rfl, rfl⟩ := List.cons.inj heq
    rw [if_pos hc]
  · rename_i heq
    cases heq

theorem afterWhole_end {rest : List Char} (hr : MayFollow rest) (isNegative : Bool) (n : Nat)
    (left : List Char) :
    afterWhole isNegative n left rest =
      if left = [] then .ok (ofInteger isNegative n, rest)
      else finish isNegative n left.length rest := by
  unfold afterWhole
  simp only
  split
  · exact absurd rfl (hr.ends_number _ rfl).2.1
  · rename_i c _ _
    have hc : isExponentMark c = false := (hr.ends_number c rfl).2.2
    rw [hc]
    rfl
  · rfl

/-- What has places, an exponent or too many digits is no integer, if it is a number at all. -/
def IsFloating (r : Except Fault (Number × List Char)) : Prop :=
  ∀ x rest, r = .ok (x, rest) → ∃ isNegative v, x = .floating isNegative v

theorem isFloating_finish (isNegative : Bool) (n : Nat) (e : Int) (rest : List Char) :
    IsFloating (finish isNegative n e rest) := by
  intro x rest' h
  unfold finish at h
  split at h
  · cases h
  · cases h
    exact ⟨_, _, rfl⟩

theorem isFloating_exponentPart (isNegative : Bool) (n : Nat) (e : Int) (s : List Char) :
    IsFloating (exponentPart isNegative n e s) := by
  intro x rest h
  unfold exponentPart at h
  simp only at h
  split at h
  · cases h
  · cases h
  · split at h
    · exact isFloating_finish _ _ _ _ x rest h
    · split at h
      · cases h
      · cases h
        exact ⟨_, _, rfl⟩

theorem isFloating_placesPart (isNegative : Bool) (n : Nat) (e : Int) (s : List Char) :
    IsFloating (placesPart isNegative n e s) := by
  intro x rest h
  unfold placesPart at h
  split at h
  · cases h
  · cases h
  · simp only at h
    split at h
    · split at h
      · exact isFloating_exponentPart _ _ _ _ x rest h
      · exact isFloating_finish _ _ _ _ x rest h
    · exact isFloating_finish _ _ _ _ x rest h

theorem IsFloating.toOption_acceptNatural {r : Except Fault (Number × List Char)}
    (h : IsFloating r) (expected : String) : (acceptNatural expected r).toOption = none := by
  rcases r with e | ⟨x, rest⟩
  · rfl
  · obtain ⟨isNegative, v, rfl⟩ := h x rest rfl
    rfl

end Number

/-- Whether a number is a natural, and which, does not depend on what follows it. -/
theorem IsMagnitude.acceptNatural {s : List Char} (h : IsMagnitude s) (isNegative : Bool)
    (expected : String) : ∃ v : Option Nat, ∀ rest, MayFollow rest →
      (Json.acceptNatural expected (Number.read isNegative (s ++ rest))).toOption =
        v.map (·, rest) := by
  cases h with
  | @mk whole places exponent hwhole hzero hplaces hexponent =>
    have hread (rest : List Char) (hr : MayFollow rest) :=
      Number.read_eq_afterWhole hwhole.1 hzero hwhole.2
        (hplaces.head fun c hc => (hexponent.head hr c hc).1) isNegative
    simp only [List.append_assoc]
    generalize (Number.absorb Number.greatestNatural 0 whole).1 = n,
      (Number.absorb Number.greatestNatural 0 whole).2 = left at hread
    cases hplaces with
    | present =>
      refine ⟨none, fun rest hr => ?_⟩
      rw [hread rest hr]
      exact (Number.isFloating_placesPart _ _ _ _).toOption_acceptNatural expected
    | absent =>
      cases hexponent with
      | present hmark =>
        refine ⟨none, fun rest hr => ?_⟩
        rw [hread rest hr, List.nil_append, List.cons_append, Number.afterWhole_mark hmark]
        exact (Number.isFloating_exponentPart _ _ _ _).toOption_acceptNatural expected
      | absent =>
        have hend (rest : List Char) (hr : MayFollow rest) :=
          (hread rest hr).trans (Number.afterWhole_end hr isNegative n left)
        by_cases hleft : left = []
        · have hof : ∃ v : Option Nat, ∀ rest : List Char, (Json.acceptNatural expected
              (.ok (Number.ofInteger isNegative n, rest))).toOption = v.map (·, rest) := by
            cases Number.ofInteger isNegative n with
            | natural k => exact ⟨some k, fun rest => rfl⟩
            | negative k => exact ⟨none, fun rest => rfl⟩
            | floating b v => exact ⟨none, fun rest => rfl⟩
          obtain ⟨v, hv⟩ := hof
          refine ⟨v, fun rest hr => ?_⟩
          rw [hend rest hr, if_pos hleft]
          exact hv rest
        · refine ⟨none, fun rest hr => ?_⟩
          rw [hend rest hr, if_neg hleft]
          exact (Number.isFloating_finish _ _ _ _).toOption_acceptNatural expected

theorem settled_natural (expected : String) : Settled (natural expected) := by
  apply Settled.of_kinds
  · intro s
    rw [natural, skipBlanks_skipBlanks]
    rfl
  · intro token htoken
    cases htoken with
    | null => exact ⟨none, fun rest _ => rfl⟩
    | flag b => cases b <;> exact ⟨none, fun rest _ => rfl⟩
    | positive h =>
      obtain ⟨v, hv⟩ := h.acceptNatural false expected
      obtain ⟨c, s, rfl, hc⟩ := h.exists_cons
      refine ⟨v, fun rest hr => ?_⟩
      rw [List.cons_append, natural_of_isDigit hc]
      exact hv rest hr
    | negative h => exact h.acceptNatural true expected
    | text => exact ⟨none, fun rest _ => rfl⟩
  · exact fun ts => ⟨none, fun s rest _ => rfl⟩
  · exact fun ms => ⟨none, fun s rest _ => rfl⟩

theorem value?_natural {n : Nat} (hn : n ≤ Number.greatestNatural) (expected : String) :
    value? (natural expected) (.natural n) = some n := by
  have hread := natural_written hn expected [] .nothing
  rw [List.append_nil] at hread
  exact (settled_natural expected).value?_eq (writes_natural n) hread

theorem settled_readSeconds : Settled readSeconds := (settled_natural "u64").map UInt64.ofNat

/-! ### Flags and texts -/

theorem flag_of_isDigit {c : Char} (hc : c.isDigit = true) (s : List Char) :
    (flag (c :: s)).toOption = none := by
  rw [flag, skipBlanks_cons (isBlank_of_isDigit hc)]
  split
  · rfl
  · rename_i heq
    exact absurd (List.cons.inj heq).1 (ne_of_isDigit hc rfl)
  · rename_i heq
    exact absurd (List.cons.inj heq).1 (ne_of_isDigit hc rfl)
  · rfl

theorem settled_flag : Settled flag := by
  apply Settled.of_kinds
  · intro s
    rw [flag, skipBlanks_skipBlanks]
    rfl
  · intro token htoken
    cases htoken with
    | null => exact ⟨none, fun rest _ => rfl⟩
    | flag b =>
      cases b with
      | false => exact ⟨some false, fun rest _ => rfl⟩
      | true => exact ⟨some true, fun rest _ => rfl⟩
    | positive h =>
      obtain ⟨c, s, rfl, hc⟩ := h.exists_cons
      exact ⟨none, fun rest _ => flag_of_isDigit hc _⟩
    | negative => exact ⟨none, fun rest _ => rfl⟩
    | text => exact ⟨none, fun rest _ => rfl⟩
  · exact fun ts => ⟨none, fun s rest _ => rfl⟩
  · exact fun ms => ⟨none, fun s rest _ => rfl⟩

theorem value?_flag (b : Bool) : value? flag (.flag b) = some b :=
  settled_flag.value?_eq (writes_flag b) (by cases b <;> rfl)

theorem string_of_isDigit {c : Char} (hc : c.isDigit = true) (s : List Char) :
    (string (c :: s)).toOption = none := by
  rw [string, skipBlanks_cons (isBlank_of_isDigit hc)]
  split
  · rfl
  · rename_i heq
    exact absurd (List.cons.inj heq).1 (ne_of_isDigit hc rfl)
  · rfl

theorem settled_string : Settled string := by
  apply Settled.of_kinds
  · intro s
    rw [string, skipBlanks_skipBlanks]
    rfl
  · intro token htoken
    cases htoken with
    | null => exact ⟨none, fun rest _ => rfl⟩
    | flag b => cases b <;> exact ⟨none, fun rest _ => rfl⟩
    | positive h =>
      obtain ⟨c, s, rfl, hc⟩ := h.exists_cons
      exact ⟨none, fun rest _ => string_of_isDigit hc _⟩
    | negative => exact ⟨none, fun rest _ => rfl⟩
    | @text s h =>
      refine ⟨keyName? s, fun rest _ => ?_⟩
      rw [List.cons_append, List.append_assoc]
      exact h.toOption_text rest
  · exact fun ts => ⟨none, fun s rest _ => rfl⟩
  · exact fun ms => ⟨none, fun s rest _ => rfl⟩

end GuestNet.Json
