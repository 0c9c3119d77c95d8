import Mathlib.Algebra.Group.Nat.Defs
import Mathlib.Data.Bool.AllAny
import Mathlib.Data.List.TakeWhile
import GuestNet.Url.Ipv6

/-! The texts of addresses of eight pieces. What is written is read back, and what can be read is
made of hexadecimal digits, colons and points. -/
namespace GuestNet.Url

/-- The characters of an address of eight pieces. -/
def isAddressChar (c : Char) : Bool := (hexDigitValue? c).isSome || c == ':' || c == '.'

namespace Ipv6

/-- The pieces so far, with some more behind them. -/
def grow (before : List Nat) (after : Option (List Nat)) (ns : List Nat) :
    List Nat × Option (List Nat) :=
  match after with
  | none => (ns.reverse ++ before, none)
  | some ms => (before, some (ns.reverse ++ ms))

/-- How many of the eight pieces are taken. The two colons count for one. -/
def taken (before : List Nat) (after : Option (List Nat)) : Nat :=
  before.length + after.elim 0 (·.length + 1)

theorem pieces?_succ (fuel : Nat) (before : List Nat) (after : Option (List Nat))
    (s : List Char) : pieces? (fuel + 1) before after s =
      match s with
      | [] => some (before, after)
      | ':' :: rest =>
        if taken before after < 8 ∧ after = none then pieces? fuel before (some []) rest else none
      | s =>
        if 8 ≤ taken before after then none
        else
          match (piece s).2.2 with
          | '.' :: _ =>
            if (piece s).2.1 = 0 ∨ 6 < taken before after then none
            else (embedded? s).map (grow before after)
          | ':' :: more =>
            if more = [] then none
            else
              pieces? fuel (grow before after [(piece s).1]).1 (grow before after [(piece s).1]).2 more
          | [] => some (grow before after [(piece s).1])
          | _ => none := by
  cases after <;> rfl

/-- The value of hexadecimal digits. -/
def hexValue (digits : List Char) : Nat :=
  digits.foldl (fun n c => n * 16 + (hexDigitValue? c).getD 0) 0

theorem piece_go_append {left value count : Nat} {ds rest : List Char}
    (hd : ∀ c ∈ ds, (hexDigitValue? c).isSome = true) (hl : ds.length ≤ left)
    (hr : ∀ c ∈ rest.head?, hexDigitValue? c = none) :
    piece.go left value count (ds ++ rest) =
      (ds.foldl (fun n c => n * 16 + (hexDigitValue? c).getD 0) value, count + ds.length, rest) := by
  induction ds generalizing left value count with
  | nil =>
    cases left with
    | zero => rfl
    | succ left =>
      cases rest with
      | nil => rfl
      | cons c rest => simp [piece.go, hr c rfl]
  | cons c ds ih =>
    obtain ⟨left, rfl⟩ : ∃ k, left = k + 1 := ⟨left - 1, by simp at hl; omega⟩
    obtain ⟨d, hc⟩ := Option.isSome_iff_exists.mp (hd c List.mem_cons_self)
    have hih := @ih left (value * 16 + d) (count + 1)
      (fun c hm => hd c (List.mem_cons_of_mem _ hm)) (Nat.le_of_succ_le_succ hl)
    simp only [List.cons_append, piece.go, hc, hih, List.foldl_cons, Option.getD_some,
      List.length_cons, Nat.add_assoc, Nat.add_comm 1]

theorem hexDigitValue?_digitChar {d : Nat} (h : d < 16) :
    hexDigitValue? d.digitChar = some d := by
  have all : ∀ d < 16, hexDigitValue? d.digitChar = some d := by decide
  exact all d h

theorem exists_digitChar {n : Nat} {c : Char} (h : c ∈ Nat.toDigits 16 n) :
    ∃ d < 16, c = d.digitChar := by
  induction n using Nat.strongRecOn with
  | ind n ih =>
    by_cases hn : n < 16
    · rw [Nat.toDigits_of_lt_base hn, List.mem_singleton] at h
      exact ⟨n, hn, h⟩
    · rw [Nat.toDigits_of_base_le (by decide) (by omega), List.mem_append,
        List.mem_singleton] at h
      rcases h with h | h
      · exact ih (n / 16) (by omega) h
      · exact ⟨n % 16, Nat.mod_lt n (by decide), h⟩

theorem isSome_of_mem_toDigits {n : Nat} {c : Char} (h : c ∈ Nat.toDigits 16 n) :
    (hexDigitValue? c).isSome = true := by
  obtain ⟨d, hd, rfl⟩ := exists_digitChar h
  rw [hexDigitValue?_digitChar hd]
  rfl

/-- A number is written with digits of its value. -/
theorem hexValue_toDigits (n : Nat) : hexValue (Nat.toDigits 16 n) = n := by
  induction n using Nat.strongRecOn with
  | ind n ih =>
    by_cases hn : n < 16
    · rw [Nat.toDigits_of_lt_base hn]
      simp [hexValue, hexDigitValue?_digitChar hn]
    · have hlast := hexDigitValue?_digitChar (Nat.mod_lt n (by decide : 0 < 16))
      rw [Nat.toDigits_of_base_le (by decide) (by omega), hexValue, List.foldl_append, ← hexValue,
        ih (n / 16) (by omega)]
      simp only [List.foldl_cons, List.foldl_nil, hlast, Option.getD_some]
      omega

/-- A written piece is read back up to what cannot belong to it. -/
theorem piece_toDigits {n : Nat} (hn : n < 65536) {rest : List Char}
    (hr : ∀ c ∈ rest.head?, hexDigitValue? c = none) :
    piece (Nat.toDigits 16 n ++ rest) = (n, (Nat.toDigits 16 n).length, rest) := by
  have hd : ∀ c ∈ Nat.toDigits 16 n, (hexDigitValue? c).isSome = true :=
    fun c hc => isSome_of_mem_toDigits hc
  have hl : (Nat.toDigits 16 n).length ≤ 4 :=
    (Nat.length_toDigits_le_iff (by decide) (by decide)).mpr hn
  rw [piece, piece_go_append hd hl hr, Nat.zero_add, ← hexValue, hexValue_toDigits]

/-- A written piece starts with a digit. -/
theorem exists_cons_toDigits (n : Nat) : ∃ c ds, Nat.toDigits 16 n = c :: ds ∧ c ≠ ':' := by
  obtain ⟨c, ds, hds⟩ := List.exists_cons_of_ne_nil (Nat.toDigits_ne_nil (n := n) (b := 16))
  refine ⟨c, ds, hds, ?_⟩
  rintro rfl
  exact absurd (isSome_of_mem_toDigits (n := n) (hds ▸ List.mem_cons_self)) (by decide)

section Reading

variable {fuel n : Nat} {before : List Nat} {after : Option (List Nat)}

theorem pieces?_toDigits (hn : n < 65536) (ht : taken before after < 8) {rest : List Char}
    (hr : ∀ c ∈ rest.head?, c = ':') : pieces? (fuel + 1) before after (Nat.toDigits 16 n ++ rest) =
      match rest with
      | [] => some (grow before after [n])
      | _ :: more =>
        if more = [] then none
        else pieces? fuel (grow before after [n]).1 (grow before after [n]).2 more := by
  obtain ⟨c, ds, hds, hc⟩ := exists_cons_toDigits n
  have hend : ∀ d ∈ rest.head?, hexDigitValue? d = none := fun d hd => by
    rw [hr d hd]
    decide
  have hpiece := piece_toDigits hn hend
  rw [hds, List.cons_append] at hpiece ⊢
  rw [pieces?_succ]
  split
  · rename_i h
    cases h
  · rename_i h
    cases h
    exact absurd rfl hc
  · rw [if_neg (Nat.not_le.mpr ht), hpiece]
    cases rest with
    | nil => rfl
    | cons d more =>
      cases hr d rfl
      rfl

/-- Some pieces with colons between them. -/
def joined (ns : List Nat) : List Char := [':'].intercalate (ns.map (Nat.toDigits 16))

theorem joined_singleton (n : Nat) : joined [n] = Nat.toDigits 16 n := List.intercalate_singleton

theorem joined_cons (n m : Nat) (ns : List Nat) :
    joined (n :: m :: ns) = Nat.toDigits 16 n ++ ':' :: joined (m :: ns) := by
  rw [joined, List.map_cons, List.map_cons, List.intercalate_cons_cons, List.append_assoc]
  rfl

theorem joined_ne_nil (n : Nat) (ns : List Nat) : joined (n :: ns) ≠ [] := by
  obtain ⟨c, ds, hds, -⟩ := exists_cons_toDigits n
  cases ns with
  | nil => rw [joined_singleton, hds]; exact List.cons_ne_nil c ds
  | cons m ns => rw [joined_cons, hds]; exact List.cons_ne_nil c _

theorem grow_grow (before : List Nat) (after : Option (List Nat)) (ns ms : List Nat) :
    grow (grow before after ns).1 (grow before after ns).2 ms = grow before after (ns ++ ms) := by
  cases after <;> simp [grow]

theorem taken_grow (before : List Nat) (after : Option (List Nat)) (ns : List Nat) :
    taken (grow before after ns).1 (grow before after ns).2 = taken before after + ns.length := by
  cases after <;> simp [grow, taken] <;> omega

theorem grow_cons (before : List Nat) (after : Option (List Nat)) (n : Nat) (ns : List Nat) :
    grow before after (n :: ns) =
      grow (grow before after [n]).1 (grow before after [n]).2 ns :=
  (grow_grow before after [n] ns).symm

/-- Pieces with colons between them are read one by one. -/
theorem pieces?_joined {ns : List Nat} (hne : ns ≠ []) (hn : ∀ n ∈ ns, n < 65536)
    (ht : taken before after + ns.length ≤ 8) (hf : (joined ns).length < fuel) :
    pieces? fuel before after (joined ns) = some (grow before after ns) := by
  induction ns generalizing fuel before after with
  | nil => exact absurd rfl hne
  | cons n ns ih =>
    obtain ⟨fuel, rfl⟩ : ∃ k, fuel = k + 1 := ⟨fuel - 1, by omega⟩
    have hn' := hn n List.mem_cons_self
    rw [List.length_cons] at ht
    cases ns with
    | nil =>
      rw [joined_singleton, ← List.append_nil (Nat.toDigits 16 n),
        pieces?_toDigits hn' (by omega) (by simp)]
    | cons m ns =>
      rw [joined_cons, List.length_append, List.length_cons] at hf
      rw [joined_cons, pieces?_toDigits hn' (by omega) (by simp), grow_cons before after n (m :: ns)]
      dsimp only
      rw [if_neg (joined_ne_nil m ns)]
      apply ih (List.cons_ne_nil m ns) fun k hk => hn k (List.mem_cons_of_mem n hk)
      · rw [taken_grow, List.length_singleton]
        omega
      · omega

/-- So they are where more follows. -/
theorem pieces?_joined_append {ns : List Nat} (hne : ns ≠ []) (hn : ∀ n ∈ ns, n < 65536)
    (ht : taken before after + ns.length ≤ 8) {more : List Char} (hm : more ≠ [])
    (hf : (joined ns).length + more.length < fuel) :
    ∃ fuel', more.length < fuel' ∧ pieces? fuel before after (joined ns ++ ':' :: more) =
      pieces? fuel' (grow before after ns).1 (grow before after ns).2 more := by
  induction ns generalizing fuel before after with
  | nil => exact absurd rfl hne
  | cons n ns ih =>
    obtain ⟨fuel, rfl⟩ : ∃ k, fuel = k + 1 := ⟨fuel - 1, by omega⟩
    have hn' := hn n List.mem_cons_self
    rw [List.length_cons] at ht
    cases ns with
    | nil =>
      have hpos := Nat.length_toDigits_pos (b := 16) (n := n)
      rw [joined_singleton] at hf ⊢
      refine ⟨fuel, by omega, ?_⟩
      rw [pieces?_toDigits hn' (by omega) (by simp)]
      dsimp only
      rw [if_neg hm]
    | cons m ns =>
      rw [joined_cons, List.length_append, List.length_cons] at hf
      rw [joined_cons, List.append_assoc, List.cons_append,
        pieces?_toDigits hn' (by omega) (by simp), grow_cons before after n (m :: ns)]
      dsimp only
      rw [if_neg (List.append_ne_nil_of_left_ne_nil (joined_ne_nil m ns) _)]
      apply ih (List.cons_ne_nil m ns) fun k hk => hn k (List.mem_cons_of_mem n hk)
      · rw [taken_grow, List.length_singleton]
        omega
      · omega

end Reading

/-- The run of zeros that two colons stand for. -/
theorem longestZeros_spec {pieces : List Nat} {start run : Nat}
    (h : longestZeros pieces = some (start, run)) :
    2 ≤ run ∧ start + run ≤ pieces.length ∧
      pieces = pieces.take start ++ List.replicate run 0 ++ pieces.drop (start + run) := by
  have hrun : ∀ (starts : List Nat) (best : Option (Nat × Nat)),
      (∀ x ∈ best, 2 ≤ x.2 ∧ x.2 = zeroRun (pieces.drop x.1)) →
        ∀ x ∈ starts.foldl (fun best i =>
          let run := zeroRun (pieces.drop i)
          if 2 ≤ run ∧ best.elim 0 (·.2) < run then some (i, run) else best) best,
          2 ≤ x.2 ∧ x.2 = zeroRun (pieces.drop x.1) := by
    intro starts
    induction starts with
    | nil => exact fun best hb => hb
    | cons i starts ih =>
      intro best hb
      apply ih
      dsimp only
      split
      · rename_i hi
        rintro x ⟨⟩
        exact ⟨hi.1, rfl⟩
      · exact hb
  obtain ⟨htwo, hlen⟩ := hrun _ none nofun (start, run) h
  dsimp only at htwo hlen
  have hzeros : (pieces.drop start).takeWhile (· = 0) = List.replicate run 0 := by
    rw [List.eq_replicate_iff]
    refine ⟨hlen.symm, fun n hn => ?_⟩
    simpa using List.mem_takeWhile_imp hn
  have htake : (pieces.drop start).take run = List.replicate run 0 := by
    have hp := List.prefix_iff_eq_take.mp
      (List.takeWhile_prefix (· = 0) (l := pieces.drop start))
    rwa [hzeros, List.length_replicate, eq_comm] at hp
  have hsplit : pieces.drop start = List.replicate run 0 ++ pieces.drop (start + run) := by
    rw [← htake, ← List.drop_drop, List.take_append_drop]
  refine ⟨htwo, ?_, ?_⟩
  · have hl := congrArg List.length hsplit
    rw [List.length_append, List.length_replicate, List.length_drop] at hl
    omega
  · rw [List.append_assoc, ← hsplit, List.take_append_drop]

theorem toList_writePieces (pieces : List Nat) : (writePieces pieces).toList = joined pieces := by
  rw [writePieces, String.toList_intercalate, List.map_map]
  have hdigits : String.toList ∘ (fun n => String.ofList (Nat.toDigits 16 n)) =
      Nat.toDigits 16 := by
    funext n
    exact String.toList_ofList
  rw [hdigits]
  rfl

theorem mem_intercalate {c d : Char} {parts : List (List Char)}
    (h : c ∈ [d].intercalate parts) : c = d ∨ ∃ p ∈ parts, c ∈ p := by
  induction parts with
  | nil => cases h
  | cons p parts ih =>
    cases parts with
    | nil =>
      rw [List.intercalate_singleton] at h
      exact .inr ⟨p, List.mem_singleton_self p, h⟩
    | cons q parts =>
      rw [List.intercalate_cons_cons, List.mem_append, List.mem_append, List.mem_singleton] at h
      rcases h with (h | h) | h
      · exact .inr ⟨p, List.mem_cons_self, h⟩
      · exact .inl h
      · exact (ih h).imp_right fun ⟨r, hr, hc⟩ => ⟨r, List.mem_cons_of_mem p hr, hc⟩

/-- Everything is written in lower case. -/
theorem map_toLower_write (pieces : List Nat) :
    (write pieces).toList.map Char.toLower = (write pieces).toList := by
  have hdigit : ∀ d < 16, d.digitChar.toLower = d.digitChar := by decide
  have hjoined : ∀ ns, ∀ c ∈ joined ns, c.toLower = c := by
    intro ns c hc
    rcases mem_intercalate hc with rfl | ⟨p, hp, hc⟩
    · rfl
    · obtain ⟨n, -, rfl⟩ := List.mem_map.mp hp
      obtain ⟨d, hd, rfl⟩ := exists_digitChar hc
      exact hdigit d hd
  refine List.map_congr_left (fun c hc => ?_) |>.trans (List.map_id _)
  rw [write] at hc
  split at hc
  · rw [toList_writePieces] at hc
    exact hjoined pieces c hc
  · rw [String.toList_append, String.toList_append, toList_writePieces, toList_writePieces,
      List.mem_append, List.mem_append] at hc
    rcases hc with (hc | hc) | hc
    · exact hjoined _ c hc
    · have hcolon : ∀ c ∈ "::".toList, c.toLower = c := List.all_iff_forall_prop.mp (by decide)
      exact hcolon c hc
    · exact hjoined _ c hc

/-- The second of two colons. -/
theorem pieces?_colon {before : List Nat} (ht : before.length < 8) (fuel : Nat)
    (rest : List Char) :
    pieces? (fuel + 1) before none (':' :: rest) = pieces? fuel before (some []) rest :=
  if_pos ⟨ht, rfl⟩

/-- Pieces behind the two colons, if there are any. -/
theorem pieces?_back {fuel : Nat} {before ns : List Nat} (hn : ∀ n ∈ ns, n < 65536)
    (ht : before.length + ns.length < 8) (hf : (joined ns).length < fuel) :
    pieces? fuel before (some []) (joined ns) = some (before, some ns.reverse) := by
  cases ns with
  | nil =>
    obtain ⟨fuel, rfl⟩ : ∃ k, fuel = k + 1 := ⟨fuel - 1, by omega⟩
    rfl
  | cons n ns =>
    have htaken : taken before (some []) + (n :: ns).length ≤ 8 := by
      simp only [taken, Option.elim_some, List.length_nil]
      omega
    rw [pieces?_joined (List.cons_ne_nil n ns) hn htaken hf, grow, List.append_nil]

/-- The eight pieces, of those before and after the run of zeros. -/
def complete? : Option (List Nat × Option (List Nat)) → Option (List Nat)
  | none => none
  | some (before, none) => if before.length = 8 then some before.reverse else none
  | some (before, some after) =>
    some (before.reverse ++ List.replicate (8 - (before.length + after.length)) 0 ++ after.reverse)

theorem parse?_colons (rest : List Char) : parse? (':' :: ':' :: rest) =
    complete? (pieces? (rest.length + 3) [] (some []) rest) := by
  rw [parse?]
  dsimp only [List.length_cons]
  rcases pieces? (rest.length + 3) [] (some []) rest with _ | ⟨before, _ | after⟩ <;> rfl

theorem parse?_cons {c : Char} (hc : c ≠ ':') (s : List Char) : parse? (c :: s) =
    complete? (pieces? ((c :: s).length + 1) [] none (c :: s)) := by
  rw [parse?]
  · dsimp only
    rcases pieces? ((c :: s).length + 1) [] none (c :: s) with _ | ⟨before, _ | after⟩ <;> rfl
  · rintro rest h
    exact hc (List.cons.inj h).1
  · rintro rest h
    exact hc (List.cons.inj h).1

theorem parse?_joined_append (n : Nat) (ns : List Nat) (rest : List Char) :
    parse? (joined (n :: ns) ++ rest) =
      complete? (pieces? ((joined (n :: ns) ++ rest).length + 1) [] none (joined (n :: ns) ++ rest)) := by
  obtain ⟨c, ds, hds, hc⟩ := exists_cons_toDigits n
  obtain ⟨s, hs⟩ : ∃ s, joined (n :: ns) = c :: s := by
    cases ns with
    | nil => exact ⟨ds, by rw [joined_singleton, hds]⟩
    | cons m ns => exact ⟨_, by rw [joined_cons, hds, List.cons_append]⟩
  rw [hs, List.cons_append, parse?_cons hc]

theorem parse?_joined {ns : List Nat} (hl : ns.length = 8) (hn : ∀ n ∈ ns, n < 65536) :
    parse? (joined ns) = some ns := by
  cases ns with
  | nil => cases hl
  | cons n ns =>
    have hread := parse?_joined_append n ns []
    rw [List.append_nil] at hread
    rw [hread, pieces?_joined (List.cons_ne_nil n ns) hn (by simp [taken, ← hl]) (by omega), grow,
      complete?, if_pos (by rw [List.length_append, List.length_reverse, hl]; rfl), List.append_nil,
      List.reverse_reverse]

theorem parse?_zeros {front back : List Nat} {run : Nat} (hr : 2 ≤ run)
    (hl : front.length + run + back.length = 8) (hf : ∀ n ∈ front, n < 65536)
    (hb : ∀ n ∈ back, n < 65536) :
    parse? (joined front ++ ':' :: ':' :: joined back) =
      some (front ++ List.replicate run 0 ++ back) := by
  have hrun : 8 - (front.length + back.length) = run := by omega
  have hback : front.reverse.length + back.length < 8 := by
    rw [List.length_reverse]
    omega
  cases front with
  | nil =>
    have hcolons : joined [] ++ ':' :: ':' :: joined back = ':' :: ':' :: joined back := rfl
    have hread : pieces? ((joined back).length + 3) [] (some []) (joined back) =
        some ([], some back.reverse) := pieces?_back hb hback (by omega)
    rw [hcolons, parse?_colons, hread, complete?, List.length_reverse, hrun, List.reverse_reverse]
    rfl
  | cons n ns =>
    have hlen : (joined (n :: ns)).length + (':' :: joined back).length <
        (joined (n :: ns) ++ ':' :: ':' :: joined back).length + 1 := by
      simp only [List.length_append, List.length_cons]
      omega
    have htaken : taken [] none + (n :: ns).length ≤ 8 := by
      rw [taken, Option.elim_none, List.length_nil]
      omega
    obtain ⟨fuel, hfuel, hread⟩ := pieces?_joined_append (List.cons_ne_nil n ns) hf htaken
      (List.cons_ne_nil ':' (joined back)) hlen
    obtain ⟨fuel, rfl⟩ : ∃ k, fuel = k + 1 := ⟨fuel - 1, by omega⟩
    have hgrow : grow [] none (n :: ns) = ((n :: ns).reverse, none) := by
      rw [grow, List.append_nil]
    rw [hgrow] at hread
    rw [parse?_joined_append, hread, pieces?_colon (Nat.lt_of_le_of_lt (Nat.le_add_right ..) hback),
      pieces?_back hb hback (Nat.lt_of_succ_lt_succ hfuel), complete?, List.length_reverse,
      List.length_reverse, hrun, List.reverse_reverse, List.reverse_reverse]

/-- What is written is read back. -/
theorem parse?_write {pieces : List Nat} (hl : pieces.length = 8)
    (hn : ∀ n ∈ pieces, n < 65536) : parse? (write pieces).toList = some pieces := by
  rw [write]
  split
  · rw [toList_writePieces, parse?_joined hl hn]
  · rename_i start run hz
    obtain ⟨htwo, hle, hsplit⟩ := longestZeros_spec hz
    have htext : (writePieces (pieces.take start) ++ "::" ++
        writePieces (pieces.drop (start + run))).toList =
          joined (pieces.take start) ++ ':' :: ':' :: joined (pieces.drop (start + run)) := by
      rw [String.toList_append, String.toList_append, toList_writePieces, toList_writePieces,
        List.append_assoc]
      rfl
    rw [htext, parse?_zeros htwo ?_ (fun n hm => hn n (List.mem_of_mem_take hm))
      (fun n hm => hn n (List.mem_of_mem_drop hm)), ← hsplit]
    rw [List.length_take, List.length_drop]
    omega

theorem hexDigitValue?_lt {c : Char} {d : Nat} (h : hexDigitValue? c = some d) : d < 16 := by
  rw [hexDigitValue?] at h
  simp only [Char.le_def, UInt32.le_iff_toNat_le] at h
  split at h
  · rename_i hc
    cases h
    have : c.toNat ≤ 57 := hc.2
    omega
  · split at h
    · rename_i hc
      cases h
      have : c.toNat ≤ 102 := hc.2
      omega
    · split at h
      · rename_i hc
        cases h
        have : c.toNat ≤ 70 := hc.2
        omega
      · cases h

theorem range_of_isSome {c : Char} (h : (hexDigitValue? c).isSome = true) :
    (48 ≤ c.toNat ∧ c.toNat ≤ 57) ∨ (97 ≤ c.toNat ∧ c.toNat ≤ 102) ∨
      (65 ≤ c.toNat ∧ c.toNat ≤ 70) := by
  rw [hexDigitValue?] at h
  simp only [Char.le_def, UInt32.le_iff_toNat_le] at h
  split at h
  · exact .inl ‹_›
  · split at h
    · exact .inr (.inl ‹_›)
    · split at h
      · exact .inr (.inr ‹_›)
      · cases h

theorem piece_go_spec {left value count size : Nat} {s : List Char} (hv : value < 16 ^ size) :
    ∃ ds, s = ds ++ (piece.go left value count s).2.2 ∧
      (∀ c ∈ ds, (hexDigitValue? c).isSome = true) ∧
        (piece.go left value count s).1 < 16 ^ (size + left) := by
  induction left generalizing value count size s with
  | zero => exact ⟨[], rfl, nofun, hv⟩
  | succ left ih =>
    have hmono : value < 16 ^ (size + (left + 1)) :=
      hv.trans_le (Nat.pow_le_pow_right (by decide) (Nat.le_add_right ..))
    cases s with
    | nil => exact ⟨[], rfl, nofun, hmono⟩
    | cons c rest =>
      rw [piece.go]
      split
      · rename_i d hc
        have hd := hexDigitValue?_lt hc
        obtain ⟨ds, hds, hhex, hlt⟩ :=
          @ih (value * 16 + d) (count + 1) (size + 1) rest (by rw [Nat.pow_succ]; omega)
        refine ⟨c :: ds, congrArg (c :: ·) hds, ?_, ?_⟩
        · rintro e (_ | ⟨_, he⟩)
          · rw [hc]
            rfl
          · exact hhex e he
        · rwa [Nat.add_assoc, Nat.add_comm 1] at hlt
      · exact ⟨[], rfl, nofun, hmono⟩

theorem piece_spec (s : List Char) : ∃ ds, s = ds ++ (piece s).2.2 ∧
    (∀ c ∈ ds, (hexDigitValue? c).isSome = true) ∧ (piece s).1 < 65536 :=
  piece_go_spec (show 0 < 16 ^ 0 by decide)

theorem map_of_mapM {α β : Type} {f : α → Option β} {l : List α} {rs : List β}
    (h : l.mapM f = some rs) : l.map f = rs.map some := by
  induction l generalizing rs with
  | nil =>
    rw [List.mapM_nil] at h
    cases h
    rfl
  | cons x l ih =>
    rw [List.mapM_cons] at h
    obtain ⟨r, hr, h⟩ := Option.bind_eq_some_iff.mp h
    obtain ⟨rs, hrs, h⟩ := Option.bind_eq_some_iff.mp h
    cases h
    rw [List.map_cons, List.map_cons, hr, ih hrs]

theorem decimalByte?_spec {digits : List Char} {n : Nat} (h : decimalByte? digits = some n) :
    (∀ c ∈ digits, c.isDigit = true) ∧ n ≤ 255 := by
  rw [decimalByte?] at h
  split at h
  · cases h
  · rename_i hd
    split at h
    · cases h
    · dsimp only at h
      split at h
      · rename_i hn
        cases h
        exact ⟨by simpa using (not_or.mp hd).2, hn⟩
      · cases h

/-- An address of four decimal bytes fills two pieces. -/
theorem embedded?_spec {s : List Char} {ns : List Nat} (h : embedded? s = some ns) :
    (∀ c ∈ s, c.isDigit = true ∨ c = '.') ∧ ns.length = 2 ∧ ∀ n ∈ ns, n < 65536 := by
  rw [embedded?] at h
  split at h
  · rename_i a b c d hm
    cases h
    have hmap := map_of_mapM hm
    have hbyte {n : Nat} (hn : n ∈ [a, b, c, d]) : n ≤ 255 := by
      have hn := List.mem_map_of_mem (f := some) hn
      rw [← hmap] at hn
      obtain ⟨p, -, hp⟩ := List.mem_map.mp hn
      exact (decimalByte?_spec hp).2
    have ha := hbyte (n := a) (by simp)
    have hb := hbyte (n := b) (by simp)
    have hc := hbyte (n := c) (by simp)
    have hd := hbyte (n := d) (by simp)
    refine ⟨fun e he => ?_, rfl, ?_⟩
    · have hjoin : ['.'].intercalate (s.splitOn '.') = s := List.intercalate_splitOn '.'
      rw [← hjoin] at he
      rcases mem_intercalate he with rfl | ⟨p, hp, he⟩
      · exact .inr rfl
      · have hp := List.mem_map_of_mem (f := decimalByte?) hp
        rw [hmap] at hp
        obtain ⟨n, -, hn⟩ := List.mem_map.mp hp
        exact .inl ((decimalByte?_spec hn.symm).1 e he)
    · intro n hn
      rcases List.mem_cons.mp hn with rfl | hn
      · omega
      · rw [List.mem_singleton.mp hn]
        omega
  · cases h

theorem isAddressChar_of_isDigit {c : Char} (h : c.isDigit = true) : isAddressChar c = true := by
  have hc : '0' ≤ c ∧ c ≤ '9' := by simpa [Char.isDigit, Char.le_def] using h
  rw [isAddressChar, hexDigitValue?, if_pos hc]
  rfl

/-- No more than eight pieces, each of sixteen bits. -/
structure Fits (before : List Nat) (after : Option (List Nat)) : Prop where
  taken : taken before after ≤ 8
  before : ∀ n ∈ before, n < 65536
  after : ∀ ns ∈ after, ∀ n ∈ ns, n < 65536

theorem Fits.grow {before : List Nat} {after : Option (List Nat)} (h : Fits before after)
    {ns : List Nat} (hn : ∀ n ∈ ns, n < 65536) (ht : Ipv6.taken before after + ns.length ≤ 8) :
    Fits (grow before after ns).1 (grow before after ns).2 where
  taken := by
    rw [taken_grow]
    exact ht
  before := by
    cases after with
    | none =>
      intro n hm
      rw [Ipv6.grow, List.mem_append, List.mem_reverse] at hm
      exact hm.elim (hn n) (h.before n)
    | some ms => exact h.before
  after := by
    cases after with
    | none => exact nofun
    | some ms =>
      rintro _ ⟨⟩ n hm
      rw [List.mem_append, List.mem_reverse] at hm
      exact hm.elim (hn n) (h.after ms rfl n)

theorem pieces?_spec {fuel : Nat} {before : List Nat} {after : Option (List Nat)} {s : List Char}
    {r : List Nat × Option (List Nat)} (h : pieces? fuel before after s = some r)
    (hf : Fits before after) : Fits r.1 r.2 ∧ ∀ c ∈ s, isAddressChar c = true := by
  have hcolon : isAddressChar ':' = true := by decide
  induction fuel generalizing before after s with
  | zero => cases h
  | succ fuel ih =>
    rw [pieces?_succ] at h
    split at h
    · cases h
      exact ⟨hf, nofun⟩
    · rename_i rest
      split at h
      · rename_i hroom
        obtain ⟨hroom, rfl⟩ := hroom
        have hzeros : Fits before (some []) := by
          refine ⟨Nat.succ_le_of_lt hroom, hf.before, ?_⟩
          rintro _ ⟨⟩
          exact nofun
        obtain ⟨hfits, hrest⟩ := ih h hzeros
        refine ⟨hfits, ?_⟩
        rintro c (_ | ⟨_, hc⟩)
        · exact hcolon
        · exact hrest c hc
      · cases h
    · split at h
      · cases h
      · rename_i hroom
        obtain ⟨ds, hds, hhex, hsmall⟩ := piece_spec s
        have hdigits : ∀ c ∈ ds, isAddressChar c = true := fun c hc => by
          rw [isAddressChar, hhex c hc]
          rfl
        have hone : ∀ n ∈ [(piece s).1], n < 65536 := fun n hn => by
          rwa [List.mem_singleton.mp hn]
        have hgrow := hf.grow hone (Nat.succ_le_of_lt (Nat.not_le.mp hroom))
        split at h
        · split at h
          · cases h
          · rename_i hdigit
            obtain ⟨ns, hns, rfl⟩ := Option.map_eq_some_iff.mp h
            obtain ⟨hchars, hlen, hsmall⟩ := embedded?_spec hns
            refine ⟨hf.grow hsmall (by omega), fun c hc => ?_⟩
            rcases hchars c hc with hc | rfl
            · exact isAddressChar_of_isDigit hc
            · decide
        · rename_i more hmore
          split at h
          · cases h
          · obtain ⟨hfits, hrest⟩ := ih h hgrow
            refine ⟨hfits, fun c hc => ?_⟩
            rw [hds, hmore, List.mem_append] at hc
            rcases hc with hc | _ | ⟨_, hc⟩
            · exact hdigits c hc
            · exact hcolon
            · exact hrest c hc
        · rename_i hnil
          cases h
          refine ⟨hgrow, ?_⟩
          rw [hds, hnil, List.append_nil]
          exact hdigits
        · cases h

theorem complete?_spec {r : Option (List Nat × Option (List Nat))} {pieces : List Nat}
    (h : complete? r = some pieces) (hf : ∀ x ∈ r, Fits x.1 x.2) :
    pieces.length = 8 ∧ ∀ n ∈ pieces, n < 65536 := by
  unfold complete? at h
  split at h
  · cases h
  · rename_i before
    split at h
    · rename_i hl
      cases h
      refine ⟨by rwa [List.length_reverse], fun n hn => ?_⟩
      exact (hf _ rfl).before n (List.mem_reverse.mp hn)
    · cases h
  · rename_i before after
    cases h
    obtain ⟨ht, hb, ha⟩ := hf _ rfl
    rw [taken, Option.elim_some] at ht
    dsimp only at ht
    refine ⟨?_, fun n hn => ?_⟩
    · simp only [List.length_append, List.length_reverse, List.length_replicate]
      omega
    · rw [List.mem_append, List.mem_append, List.mem_reverse, List.mem_reverse] at hn
      rcases hn with (hn | hn) | hn
      · exact hb n hn
      · rw [List.eq_of_mem_replicate hn]
        decide
      · exact ha after rfl n hn

/-- What can be read is eight pieces of sixteen bits. -/
theorem parse?_spec {s : List Char} {pieces : List Nat} (h : parse? s = some pieces) :
    pieces.length = 8 ∧ (∀ n ∈ pieces, n < 65536) ∧ ∀ c ∈ s, isAddressChar c = true := by
  have hnone : Fits [] none := ⟨Nat.zero_le 8, nofun, nofun⟩
  have hzeros : Fits [] (some []) := by
    refine ⟨by decide, nofun, ?_⟩
    rintro _ ⟨⟩
    exact nofun
  have hread {fuel : Nat} {after : Option (List Nat)} {s : List Char} (hf : Fits [] after)
      (h : complete? (pieces? fuel [] after s) = some pieces) :
      pieces.length = 8 ∧ (∀ n ∈ pieces, n < 65536) ∧ ∀ c ∈ s, isAddressChar c = true := by
    obtain ⟨hl, hn⟩ := complete?_spec h fun x hx => (pieces?_spec hx hf).1
    refine ⟨hl, hn, ?_⟩
    cases hp : pieces? fuel [] after s with
    | none =>
      rw [hp] at h
      cases h
    | some r => exact (pieces?_spec hp hf).2
  cases s with
  | nil => cases h
  | cons c s =>
    by_cases hc : c = ':'
    · subst hc
      cases s with
      | nil => cases h
      | cons d s =>
        by_cases hd : d = ':'
        · subst hd
          rw [parse?_colons] at h
          obtain ⟨hl, hn, hrest⟩ := hread hzeros h
          refine ⟨hl, hn, ?_⟩
          rintro c (_ | ⟨_, _ | ⟨_, hc⟩⟩)
          · decide
          · decide
          · exact hrest c hc
        · rw [parse?] at h
          · cases h
          · intro rest he
            exact hd (List.cons.inj he).1
    · rw [parse?_cons hc] at h
      exact hread hnone h

end Ipv6
end GuestNet.Url
