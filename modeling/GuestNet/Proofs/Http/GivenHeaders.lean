import Mathlib.Data.List.Nodup
import GuestNet.Proofs.Http.Headers
import GuestNet.Proofs.Text.ByteOrder

/-! The headers of a request from the map that a guest gives. All entries of the map have to be in
order, and the first one that is not names the error. Then each name of the map has one value, that
of its greatest spelling. -/
namespace GuestNet.Http

/-- What can stand in a message as a header with its value. -/
structure IsField (e : String × String) : Prop where
  name : isHeaderName e.1.toList = true
  value : isHeaderValue e.2.toList = true

/-- What is wrong with an entry. Its name is looked at before its value. -/
inductive FieldFault : String × String → String → Prop where
  | name {name value : String} : isHeaderName name.toList = false →
      FieldFault (name, value) ("invalid header name '" ++ name ++ "'")
  | value {name value : String} : isHeaderName name.toList = true →
      isHeaderValue value.toList = false →
        FieldFault (name, value) ("invalid value for header '" ++ name ++ "'")

theorem FieldFault.not_isField {e : String × String} {reason : String} (hf : FieldFault e reason) :
    ¬ IsField e := by
  rintro ⟨hname, hvalue⟩
  cases hf with
  | name hn => exact absurd hname (by simp [hn])
  | value _ hv => exact absurd hvalue (by simp [hv])

/-- An entry is in order and stands as it is given, or something is wrong with it. -/
theorem readHeader_cases (name value : String) :
    IsField (name, value) ∧ readHeader name value = .ok (name, .ofText value) ∨
      ∃ reason, FieldFault (name, value) reason ∧
        readHeader name value = .error (.badParams reason) := by
  rw [readHeader]
  split
  · rename_i hn
    split
    · rename_i hv
      exact .inl ⟨⟨hn, hv⟩, rfl⟩
    · rename_i hv
      exact .inr ⟨_, .value hn (eq_false_of_ne_true hv), rfl⟩
  · rename_i hn
    exact .inr ⟨_, .name (eq_false_of_ne_true hn), rfl⟩

theorem readHeader_of_isField {name value : String} (hf : IsField (name, value)) :
    readHeader name value = .ok (name, .ofText value) := by
  rcases readHeader_cases name value with ⟨-, he⟩ | ⟨reason, hfault, -⟩
  · exact he
  · exact absurd hf hfault.not_isField

theorem FieldFault.readHeader {name value reason : String} (hf : FieldFault (name, value) reason) :
    Http.readHeader name value = .error (.badParams reason) := by
  cases hf with
  | name hn => rw [Http.readHeader, hn, if_neg Bool.false_ne_true]
  | value hn hv => rw [Http.readHeader, hn, hv, if_pos rfl, if_neg Bool.false_ne_true]

variable {h h' : Headers} {entries : List (String × String)} {room : Nat}

theorem addHeaders_cons_of_isField {e : String × String} (he : IsField e) (hroom : room ≠ 0)
    (h : Headers) (rest : List (String × String)) : addHeaders room h (e :: rest) =
      addHeaders (room - 1) (h.insert e.1 (.ofText e.2)) rest := by
  rw [addHeaders, readHeader_of_isField he]
  exact if_neg hroom

theorem addHeaders_of_fault {front rest : List (String × String)} {e : String × String}
    {reason : String} (hf : ∀ x ∈ front, IsField x) (he : FieldFault e reason)
    (hroom : front.length ≤ room) (h : Headers) :
    addHeaders room h (front ++ e :: rest) = some (.error (.badParams reason)) := by
  induction front generalizing room h with
  | nil => rw [List.nil_append, addHeaders, FieldFault.readHeader he]
  | cons x front ih =>
    obtain ⟨hx, hfront⟩ := List.forall_mem_cons.mp hf
    rw [List.length_cons] at hroom
    rw [List.cons_append, addHeaders_cons_of_isField hx (by omega)]
    exact ih hfront (by omega) _

/-- All entries are in order and find room, or one is the first that is not in order, or one in
order is the first that finds no room. -/
theorem addHeaders_cases (room : Nat) (h : Headers) (entries : List (String × String)) :
    (entries.length ≤ room ∧ (∀ e ∈ entries, IsField e) ∧ addHeaders room h entries =
        some (.ok (entries.foldl (fun h e => h.insert e.1 (.ofText e.2)) h))) ∨
      (∃ front e rest reason, entries = front ++ e :: rest ∧ (∀ x ∈ front, IsField x) ∧
        FieldFault e reason ∧ front.length ≤ room ∧
          addHeaders room h entries = some (.error (.badParams reason))) ∨
      (room < entries.length ∧ (∀ e ∈ entries.take (room + 1), IsField e) ∧
        addHeaders room h entries = none) := by
  induction entries generalizing room h with
  | nil => exact .inl ⟨Nat.zero_le _, nofun, by rw [addHeaders]; rfl⟩
  | cons e entries ih =>
    rcases readHeader_cases e.1 e.2 with ⟨he, hread⟩ | ⟨reason, hfault, hread⟩
    · cases room with
      | zero =>
        refine .inr (.inr ⟨Nat.zero_lt_succ _, List.forall_mem_singleton.mpr he, ?_⟩)
        rw [addHeaders, hread]
        rfl
      | succ room =>
        have hstep : addHeaders (room + 1) h (e :: entries) =
            addHeaders room (h.insert e.1 (.ofText e.2)) entries :=
          addHeaders_cons_of_isField he (Nat.succ_ne_zero room) h entries
        rw [hstep, List.length_cons, List.take_succ_cons]
        rcases ih room (h.insert e.1 (.ofText e.2)) with ⟨hlen, hall, heq⟩ |
          ⟨front, x, rest, reason, rfl, hfront, hfault, hlen, heq⟩ | ⟨hlen, hall, heq⟩
        · exact .inl ⟨Nat.succ_le_succ hlen, List.forall_mem_cons.mpr ⟨he, hall⟩, heq⟩
        · exact .inr (.inl ⟨e :: front, x, rest, reason, rfl, List.forall_mem_cons.mpr ⟨he, hfront⟩,
            hfault, Nat.succ_le_succ hlen, heq⟩)
        · exact .inr (.inr ⟨Nat.succ_lt_succ hlen, List.forall_mem_cons.mpr ⟨he, hall⟩, heq⟩)
    · refine .inr (.inl ⟨[], e, entries, reason, rfl, nofun, hfault, Nat.zero_le _, ?_⟩)
      rw [addHeaders, hread]

theorem addHeaders_eq_ok_iff : addHeaders room h entries = some (.ok h') ↔
    entries.length ≤ room ∧ (∀ e ∈ entries, IsField e) ∧
      h' = entries.foldl (fun h e => h.insert e.1 (.ofText e.2)) h := by
  rcases addHeaders_cases room h entries with ⟨hlen, hall, heq⟩ |
    ⟨front, e, rest, reason, rfl, hfront, hfault, hlen, heq⟩ | ⟨hlen, hall, heq⟩
  · rw [heq, and_iff_right hlen, and_iff_right hall, Option.some_inj, Except.ok.injEq, eq_comm]
  · rw [heq]
    exact iff_of_false nofun fun ⟨_, hall, _⟩ => hfault.not_isField (hall e (by simp))
  · rw [heq]
    exact iff_of_false nofun fun ⟨hle, _⟩ => Nat.not_le.mpr hlen hle

theorem addHeaders_eq_none_iff : addHeaders room h entries = none ↔
    room < entries.length ∧ ∀ e ∈ entries.take (room + 1), IsField e := by
  rcases addHeaders_cases room h entries with ⟨hlen, hall, heq⟩ |
    ⟨front, e, rest, reason, rfl, hfront, hfault, hlen, heq⟩ | ⟨hlen, hall, heq⟩
  · rw [heq]
    exact iff_of_false nofun fun ⟨hlt, _⟩ => Nat.not_le.mpr hlt hlen
  · rw [heq]
    refine iff_of_false nofun fun ⟨_, hall⟩ => hfault.not_isField (hall e ?_)
    rw [List.take_append, Nat.succ_sub hlen, List.take_succ_cons]
    exact List.mem_append_right _ List.mem_cons_self
  · exact iff_of_true heq ⟨hlen, hall⟩

theorem addHeaders_eq_error_iff {error : DriverError} :
    addHeaders room h entries = some (.error error) ↔ ∃ front e rest reason,
      entries = front ++ e :: rest ∧ (∀ x ∈ front, IsField x) ∧ FieldFault e reason ∧
        front.length ≤ room ∧ error = .badParams reason := by
  constructor
  · intro ha
    rcases addHeaders_cases room h entries with ⟨-, -, heq⟩ |
      ⟨front, e, rest, reason, rfl, hfront, hfault, hlen, heq⟩ | ⟨-, -, heq⟩
    · cases ha.symm.trans heq
    · cases ha.symm.trans heq
      exact ⟨front, e, rest, reason, rfl, hfront, hfault, hlen, rfl⟩
    · cases ha.symm.trans heq
  · rintro ⟨front, e, rest, reason, rfl, hfront, hfault, hlen, rfl⟩
    exact addHeaders_of_fault hfront hfault hlen h

theorem eq_of_readHeaders {m : TextMap} {capacity : Nat}
    (hm : readHeaders capacity m = some (.ok h)) : (∀ e ∈ m.entries, IsField e) ∧
      h = m.entries.foldl (fun h e => h.insert e.1 (.ofText e.2)) .empty :=
  (addHeaders_eq_ok_iff.mp hm).2

namespace Headers

theorem erase_of_not_mem {name : String} (hn : lowerCase name ∉ h.entries.map Prod.fst) :
    h.erase name = h := by
  have hall : ∀ e ∈ h.entries, decide (e.1 ≠ lowerCase name) = true := by
    intro e he
    exact decide_eq_true fun hk => hn (hk ▸ List.mem_map_of_mem he)
  rw [erase, List.filter_eq_self.mpr hall]

/-- Entries whose names differ in more than letter case are all put beside what is there. -/
theorem entries_foldl_insert
    (hn : (h.entries.map Prod.fst ++ entries.map fun e => lowerCase e.1).Nodup) :
    (entries.foldl (fun h e => h.insert e.1 (.ofText e.2)) h).entries =
      h.entries ++ entries.map fun e => (lowerCase e.1, .ofText e.2) := by
  induction entries generalizing h with
  | nil => simp
  | cons e entries ih =>
    have hnew : lowerCase e.1 ∉ h.entries.map Prod.fst := by
      intro hm
      exact List.disjoint_of_nodup_append hn hm (by simp)
    have hinsert : h.insert e.1 (.ofText e.2) =
        ⟨h.entries ++ [(lowerCase e.1, .ofText e.2)]⟩ := by
      rw [insert, erase_of_not_mem hnew, append]
    rw [List.foldl_cons, hinsert, ih]
    · simp
    · simpa using hn

/-- Only the names that are put among headers come to be there. -/
theorem mem_entries_foldl_insert {x : String × Bytes}
    (hx : x ∈ (entries.foldl (fun h e => h.insert e.1 (.ofText e.2)) h).entries) :
    x ∈ h.entries ∨ ∃ e ∈ entries, x = (lowerCase e.1, .ofText e.2) := by
  induction entries generalizing h with
  | nil => exact .inl hx
  | cons e entries ih =>
    rcases ih hx with hm | ⟨y, hy, rfl⟩
    · have hinsert : x ∈ (h.erase e.1).entries ++ [(lowerCase e.1, .ofText e.2)] := hm
      rcases List.mem_append.mp hinsert with hm | hm
      · exact .inl (List.mem_of_mem_filter hm)
      · exact .inr ⟨e, List.mem_cons_self, List.mem_singleton.mp hm⟩
    · exact .inr ⟨y, List.mem_cons_of_mem e hy, rfl⟩

end Headers

/-- The value that counts is that of the greatest of the names that differ in letter case only. -/
theorem exists_givenValue? (hsorted : entries.Pairwise fun a b => a.1 < b.1) {key : String}
    {e : String × String} (he : e ∈ entries) (hk : lowerCase e.1 = key) :
    ∃ g ∈ entries, lowerCase g.1 = key ∧
      (∀ y ∈ entries, lowerCase y.1 = key → y.1 ≤ g.1) ∧ givenValue? entries key = some g.2 := by
  have hmem {y : String × String} : y ∈ entries.filter (fun e => lowerCase e.1 = key) ↔
      y ∈ entries ∧ lowerCase y.1 = key := by simp
  have hfiltered := hsorted.filter fun e => lowerCase e.1 = key
  rw [givenValue?]
  rcases List.eq_nil_or_concat (entries.filter fun e => lowerCase e.1 = key) with hnil | ⟨l, g, hl⟩
  · exact absurd (hmem.mpr ⟨he, hk⟩) (hnil ▸ List.not_mem_nil)
  · rw [List.concat_eq_append] at hl
    rw [hl] at hmem hfiltered ⊢
    obtain ⟨hg, hgk⟩ := hmem.mp (List.mem_append_right l List.mem_cons_self)
    refine ⟨g, hg, hgk, fun y hy hyk => ?_, by simp⟩
    rcases List.mem_append.mp (hmem.mpr ⟨hy, hyk⟩) with hyl | hyg
    · exact ((List.pairwise_append.mp hfiltered).2.2 y hyl g List.mem_cons_self).le
    · rw [List.mem_singleton.mp hyg]

/-- Of the entries of a map, those before one of them are those with lesser names. -/
theorem mem_front_iff {front rest : List (String × String)} {e y : String × String}
    (hsorted : (front ++ e :: rest).Pairwise fun a b => a.1 < b.1)
    (hy : y ∈ front ++ e :: rest) : y ∈ front ↔ y.1 < e.1 := by
  obtain ⟨-, hafter, hbefore⟩ := List.pairwise_append.mp hsorted
  refine ⟨fun hm => hbefore y hm e List.mem_cons_self, fun hlt => ?_⟩
  rcases List.mem_append.mp hy with hm | hm
  · exact hm
  · rcases List.mem_cons.mp hm with rfl | hm
    · exact absurd hlt (lt_irrefl _)
    · exact absurd (hlt.trans ((List.pairwise_cons.mp hafter).1 y hm)) (lt_irrefl _)

/-- What is wrong with a map is what is wrong with the first of its entries that are not in order,
by the bytes of their names. -/
def FirstFieldFault (m : TextMap) (reason : String) : Prop :=
  ∃ e ∈ m.entries, FieldFault e reason ∧
    ∀ x ∈ m.entries, Bytes.ofText x.1 < Bytes.ofText e.1 → IsField x

/-- What stands before a fault in a map does not depend on the order of its entries. -/
theorem firstFieldFault_iff {m : TextMap} {reason : String} :
    FirstFieldFault m reason ↔ ∃ front e rest, m.entries = front ++ e :: rest ∧
      (∀ x ∈ front, IsField x) ∧ FieldFault e reason := by
  constructor
  · rintro ⟨e, he, hfault, hbefore⟩
    obtain ⟨front, rest, hentries⟩ := List.append_of_mem he
    refine ⟨front, e, rest, hentries, fun x hx => ?_, hfault⟩
    have hsorted := m.sorted
    rw [hentries] at hsorted hbefore
    have hmem : x ∈ front ++ e :: rest := List.mem_append_left _ hx
    exact hbefore x hmem (Bytes.ofText_lt_ofText_iff.mpr ((mem_front_iff hsorted hmem).mp hx))
  · rintro ⟨front, e, rest, hentries, hfront, hfault⟩
    refine ⟨e, by simp [hentries], hfault, fun x hx hlt => hfront x ?_⟩
    have hsorted := m.sorted
    rw [hentries] at hsorted hx
    exact (mem_front_iff hsorted hx).mpr (Bytes.ofText_lt_ofText_iff.mp hlt)

/-- No headers come of a map with more entries than find room, if the first ones up to the one
beyond the others are in order. -/
theorem readHeaders_eq_none_iff {m : TextMap} {capacity : Nat} :
    readHeaders capacity m = none ↔
      capacity < m.entries.length ∧ ∀ e ∈ m.entries.take (capacity + 1), IsField e :=
  addHeaders_eq_none_iff

theorem exists_readHeaders_iff {m : TextMap} {capacity : Nat} (hroom : m.entries.length ≤ capacity) :
    (∃ h, readHeaders capacity m = some (.ok h)) ↔ ∀ e ∈ m.entries, IsField e := by
  constructor
  · rintro ⟨h, hm⟩
    exact (eq_of_readHeaders hm).1
  · intro hall
    exact ⟨_, addHeaders_eq_ok_iff.mpr ⟨hroom, hall, rfl⟩⟩

theorem firstFieldFault_of_readHeaders {m : TextMap} {capacity : Nat} {error : DriverError}
    (hm : readHeaders capacity m = some (.error error)) :
    ∃ reason, FirstFieldFault m reason ∧ error = .badParams reason := by
  obtain ⟨front, e, rest, reason, hentries, hfront, hfault, -, rfl⟩ := addHeaders_eq_error_iff.mp hm
  exact ⟨reason, firstFieldFault_iff.mpr ⟨front, e, rest, hentries, hfront, hfault⟩, rfl⟩

/-- A fault names the error, unless some of the entries before it find no room. -/
theorem FirstFieldFault.readHeaders {m : TextMap} {reason : String}
    (hf : FirstFieldFault m reason) (capacity : Nat) : Http.readHeaders capacity m = none ∨
      Http.readHeaders capacity m = some (.error (.badParams reason)) := by
  obtain ⟨front, e, rest, hentries, hfront, hfault⟩ := firstFieldFault_iff.mp hf
  rcases Nat.lt_or_ge capacity front.length with hlt | hle
  · refine .inl (readHeaders_eq_none_iff.mpr ⟨?_, fun x hx => hfront x ?_⟩)
    · rw [hentries, List.length_append]
      omega
    · rw [hentries, List.take_append_of_le_length hlt] at hx
      exact List.mem_of_mem_take hx
  · exact .inr (addHeaders_eq_error_iff.mpr
      ⟨front, e, rest, reason, hentries, hfront, hfault, hle, rfl⟩)

/-- A map whose entries find room makes headers just if all of them are in order. Else the error is
about the first of the others in the order of their names' bytes. Names that differ in letter case
only are one name, with the value that the greatest of them has in the map; where there are none
such, the headers are the entries. -/
theorem readHeaders_of_map (m : TextMap) {capacity : Nat} (hroom : m.entries.length ≤ capacity) :
    ((∃ h, readHeaders capacity m = some (.ok h)) ↔ ∀ e ∈ m.entries, IsField e) ∧
      (∀ error, readHeaders capacity m = some (.error error) ↔
        ∃ e ∈ m.entries, ∃ reason, FieldFault e reason ∧
          (∀ x ∈ m.entries, Bytes.ofText x.1 < Bytes.ofText e.1 → IsField x) ∧
            error = .badParams reason) ∧
      ∀ h, readHeaders capacity m = some (.ok h) →
        (∀ e ∈ m.entries, ∃ g ∈ m.entries, lowerCase g.1 = lowerCase e.1 ∧
          (∀ x ∈ m.entries, lowerCase x.1 = lowerCase e.1 →
            Bytes.ofText x.1 ≤ Bytes.ofText g.1) ∧
          h.values (lowerCase e.1) = [.ofText g.2]) ∧
        (∀ f ∈ h.entries, ∃ e ∈ m.entries, f = (lowerCase e.1, .ofText e.2)) ∧
        ((m.entries.map fun e => lowerCase e.1).Nodup →
          h.entries = m.entries.map fun e => (lowerCase e.1, .ofText e.2)) := by
  refine ⟨exists_readHeaders_iff hroom, fun error => ?_, fun h hm => ⟨fun e he => ?_, ?_, ?_⟩⟩
  · constructor
    · intro hm
      obtain ⟨reason, ⟨e, he, hfault, hbefore⟩, herror⟩ := firstFieldFault_of_readHeaders hm
      exact ⟨e, he, reason, hfault, hbefore, herror⟩
    · rintro ⟨e, he, reason, hfault, hbefore, rfl⟩
      have hf : FirstFieldFault m reason := ⟨e, he, hfault, hbefore⟩
      refine (hf.readHeaders capacity).resolve_left fun hnone => ?_
      exact Nat.not_le.mpr (readHeaders_eq_none_iff.mp hnone).1 hroom
  · obtain ⟨g, hg, hgk, hgreatest, hvalue⟩ := exists_givenValue? m.sorted he rfl
    refine ⟨g, hg, hgk, fun x hx hk => ?_, ?_⟩
    · exact Bytes.ofText_le_ofText_iff.mpr (hgreatest x hx hk)
    · rw [values_addHeaders hm, hvalue, Option.elim_some]
  · obtain ⟨-, rfl⟩ := eq_of_readHeaders hm
    intro f hf
    rcases Headers.mem_entries_foldl_insert hf with hf | hf
    · cases hf
    · exact hf
  · intro hdistinct
    obtain ⟨-, rfl⟩ := eq_of_readHeaders hm
    exact Headers.entries_foldl_insert hdistinct

namespace Doublet

/-- The same header twice, in different letter case, and another one. -/
def given : TextMap := ((TextMap.empty.insert "x-b" "3").insert "x-a" "2").insert "X-A" "1"

theorem readHeaders_of_map_given : ∃ h, readHeaders 3 given = some (.ok h) ∧
    (("X-A", "1") : String × String) ∈ given.entries ∧
      h.values "x-a" = [.ofText "2"] ∧ h.values "x-b" = [.ofText "3"] := by
  obtain ⟨hok, -, hvalues⟩ := readHeaders_of_map given (by decide +kernel : _ ≤ 3)
  have hfields : ∀ e ∈ given.entries, IsField e := by
    have hall : given.entries.all (fun e =>
        isHeaderName e.1.toList && isHeaderValue e.2.toList) = true := by decide +kernel
    intro e he
    have hboth := List.all_eq_true.mp hall e he
    exact ⟨(Bool.and_eq_true_iff.mp hboth).1, (Bool.and_eq_true_iff.mp hboth).2⟩
  obtain ⟨h, hh⟩ := hok.mpr hfields
  obtain ⟨hgreatest, -, -⟩ := hvalues h hh
  have hmem : (("X-A", "1") : String × String) ∈ given.entries := by decide +kernel
  refine ⟨h, hh, hmem, ?_, ?_⟩
  · obtain ⟨g, hg, hgk, hle, hvalue⟩ := hgreatest _ hmem
    have hlast : ∀ g ∈ given.entries, lowerCase g.1 = lowerCase "X-A" →
        ¬ Bytes.ofText g.1 < Bytes.ofText "x-a" → g.2 = "2" := by decide +kernel
    have hgreat : ¬ Bytes.ofText g.1 < Bytes.ofText "x-a" :=
      List.not_lt.mpr (hle ("x-a", "2") (by decide +kernel) (by decide +kernel))
    rw [hlast g hg hgk hgreat] at hvalue
    exact hvalue
  · obtain ⟨g, hg, hgk, -, hvalue⟩ := hgreatest ("x-b", "3") (by decide +kernel)
    have honly : ∀ g ∈ given.entries, lowerCase g.1 = lowerCase "x-b" → g.2 = "3" := by
      decide +kernel
    rw [honly g hg hgk] at hvalue
    exact hvalue

end Doublet

namespace Crowd

/-- A number in so many digits. -/
def padded : Nat → Nat → List Char
  | 0, _ => []
  | width + 1, n => Decimal.digit (n / 10 ^ width) :: padded width (n % 10 ^ width)

theorem length_padded (width n : Nat) : (padded width n).length = width := by
  induction width generalizing n with
  | zero => rfl
  | succ width ih => rw [padded, List.length_cons, ih]

theorem div_lt_ten {width n : Nat} (h : n < 10 ^ (width + 1)) : n / 10 ^ width < 10 :=
  Nat.div_lt_of_lt_mul (by rwa [Nat.pow_succ] at h)

theorem digit_lt_digit {a b : Nat} (h : a < b) (hb : b < 10) :
    Decimal.digit a < Decimal.digit b := by
  have hall : ∀ b < 10, ∀ a < b, Decimal.digit a < Decimal.digit b := by decide
  exact hall b hb a h

theorem padded_lt_padded {width m n : Nat} (h : m < n) (hn : n < 10 ^ width) :
    padded width m < padded width n := by
  induction width generalizing m n with
  | zero => omega
  | succ width ih =>
    have hpos : 0 < 10 ^ width := Nat.pow_pos (by omega)
    apply List.cons_lt_cons_iff.mpr
    rcases Nat.lt_or_ge (m / 10 ^ width) (n / 10 ^ width) with hlt | hge
    · exact .inl (digit_lt_digit hlt (div_lt_ten hn))
    · have heq : m / 10 ^ width = n / 10 ^ width :=
        Nat.le_antisymm (Nat.div_le_div_right h.le) hge
      have hmod : m % 10 ^ width < n % 10 ^ width := by
        have hm := Nat.div_add_mod m (10 ^ width)
        have hn := Nat.div_add_mod n (10 ^ width)
        rw [heq] at hm
        omega
      exact .inr ⟨by rw [heq], ih hmod (Nat.mod_lt n hpos)⟩

theorem isTokenChar_of_mem_padded {width n : Nat} (hn : n < 10 ^ width) {c : Char}
    (hc : c ∈ padded width n) : isTokenChar c = true := by
  induction width generalizing n with
  | zero => cases hc
  | succ width ih =>
    rcases List.mem_cons.mp hc with rfl | hc
    · have hdigit := Decimal.isDigit_digit (div_lt_ten hn)
      simp [isTokenChar, Char.isAlphanum, hdigit]
    · exact ih (Nat.mod_lt n (Nat.pow_pos (by omega))) hc

/-- Headers whose names are the first so many numbers. -/
def many (n : Nat) (hn : n ≤ 10 ^ 5) : TextMap where
  entries := (List.range n).map fun i => (String.ofList (padded 5 i), "")
  sorted := by
    rw [List.pairwise_map]
    refine List.pairwise_lt_range.imp_of_mem fun _ hj h => ?_
    rw [String.lt_iff_toList_lt, String.toList_ofList, String.toList_ofList]
    exact padded_lt_padded h (Nat.lt_of_lt_of_le (List.mem_range.mp hj) hn)

/-- One header more than find room. -/
def given : TextMap := many 24577 (by omega)

variable {n : Nat} {hn : n ≤ 10 ^ 5}

theorem isField_of_mem_many : ∀ e ∈ (many n hn).entries, IsField e := by
  intro e he
  obtain ⟨i, hi, rfl⟩ := List.mem_map.mp he
  have hlt := Nat.lt_of_lt_of_le (List.mem_range.mp hi) hn
  have hchars := List.all_eq_true.mpr fun c => isTokenChar_of_mem_padded hlt (c := c)
  refine ⟨?_, rfl⟩
  simp [isHeaderName, isToken, hchars, length_padded, ← List.length_eq_zero_iff]

theorem length_many : (many n hn).entries.length = n := by
  rw [many, List.length_map, List.length_range]

/-- Where the last of so many headers finds no room, none come of them. -/
theorem readHeaders_many {capacity : Nat} (h : capacity < n) :
    readHeaders capacity (many n hn) = none :=
  readHeaders_eq_none_iff.mpr
    ⟨length_many.symm ▸ h, fun e he => isField_of_mem_many e (List.mem_of_mem_take he)⟩

/-- A name of so many letters. -/
def letters (n : Nat) : String := String.ofList (List.replicate n 'a')

theorem isToken_letters (h : n ≠ 0) : isToken (letters n).toList = true := by
  have hletter : isTokenChar 'a' = true := by decide
  simp [letters, isToken, List.all_replicate, h, hletter]

/-- Maps whose names are tokens and whose values are values, and that make no headers: in one a name
is too long, and the other has one name more than find room. -/
theorem readHeaders_of_tokens :
    (isToken (letters 65536).toList = true ∧ isHeaderValue "1".toList = true ∧
      ∀ capacity, readHeaders capacity (TextMap.empty.insert (letters 65536) "1") =
        some (.error (.badParams ("invalid header name '" ++ letters 65536 ++ "'")))) ∧
      given.entries.length = 24577 ∧ (∀ e ∈ given.entries, IsField e) ∧
        readHeaders 24576 given = none := by
  have hlong : isHeaderName (letters 65536).toList = false := by
    rw [isHeaderName, letters, String.toList_ofList, List.length_replicate]
    exact Bool.and_eq_false_imp.mpr fun _ => decide_eq_false (Nat.lt_irrefl _)
  refine ⟨⟨isToken_letters (by omega), rfl, fun capacity => ?_⟩, length_many, isField_of_mem_many,
    readHeaders_many (by omega)⟩
  exact addHeaders_of_fault (List.forall_mem_nil _) (.name hlong) (Nat.zero_le _) .empty

end Crowd
end GuestNet.Http
