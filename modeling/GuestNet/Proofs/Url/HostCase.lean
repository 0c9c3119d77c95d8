import GuestNet.Proofs.Url.AsciiHost
import GuestNet.Proofs.Url.HostPort
import GuestNet.Proofs.Url.Ipv6Text

/-! The letter case of a host. What is read from it is the same in lower case: a name is mapped, the
digits of an address have their value in either case, and a host of any other text keeps its letters
but not their case. -/
namespace GuestNet

/-- Letters alone have two cases. -/
theorem toLower_eq_nonletter_iff {c d : Char} (hd : d.isAlpha = false) :
    c.toLower = d ↔ c = d := by
  have hd' : ¬ ((65 ≤ d.toNat ∧ d.toNat ≤ 90) ∨ (97 ≤ d.toNat ∧ d.toNat ≤ 122)) :=
    fun h => Bool.false_ne_true (hd.symm.trans (isAlpha_iff.mpr h))
  refine ⟨fun he => ?_, fun he => he ▸ toLower_of_not_isUpper fun h => hd' (.inl (he ▸ h))⟩
  have hn := toNat_toLower c
  rw [he] at hn
  apply Char.toNat_inj.mp
  split at hn <;> omega

theorem isDigit_toLower (c : Char) : c.toLower.isDigit = c.isDigit := by
  have hrange (d : Char) : d.isDigit = true ↔ 48 ≤ d.toNat ∧ d.toNat ≤ 57 :=
    Char.isDigit_iff_toNat
  rw [Bool.eq_iff_iff, hrange, hrange, toNat_toLower]
  split <;> omega

theorem map_toLower_of_isDigit {s : List Char} (hs : s.all Char.isDigit = true) :
    s.map Char.toLower = s := by
  refine (List.map_congr_left fun c hc => ?_).trans (List.map_id s)
  have hd : 48 ≤ c.toNat ∧ c.toNat ≤ 57 :=
    Char.isDigit_iff_toNat.mp (List.all_eq_true.mp hs c hc)
  exact toLower_eq_self (by omega)

theorem splitOn_map_toLower {d : Char} (hd : d.toNat < 65) (s : List Char) :
    (s.map Char.toLower).splitOn d = (s.splitOn d).map (List.map Char.toLower) := by
  induction s with
  | nil => rfl
  | cons c s ih =>
    rw [List.map_cons, List.splitOn_cons_eq_if_modifyHead, List.splitOn_cons_eq_if_modifyHead, ih]
    simp only [beq_iff_eq, toLower_eq_iff hd]
    split
    · rfl
    · cases s.splitOn d <;> rfl

namespace Url

theorem hexDigitValue?_eq (c : Char) : hexDigitValue? c =
    if 48 ≤ c.toNat ∧ c.toNat ≤ 57 then some (c.toNat - 48)
    else if 97 ≤ c.toNat ∧ c.toNat ≤ 102 then some (c.toNat - 87)
    else if 65 ≤ c.toNat ∧ c.toNat ≤ 70 then some (c.toNat - 55) else none := by
  simp only [hexDigitValue?, Char.le_def, UInt32.le_iff_toNat_le]
  rfl

theorem hexDigitValue?_toLower (c : Char) : hexDigitValue? c.toLower = hexDigitValue? c := by
  by_cases hc : 65 ≤ c.toNat ∧ c.toNat ≤ 90
  · have hn : c.toLower.toNat = c.toNat + 32 := (toNat_toLower c).trans (if_pos hc)
    rw [hexDigitValue?_eq, hexDigitValue?_eq, hn]
    split_ifs <;> first | omega | exact congrArg some (by omega) | rfl
  · rw [toLower_of_not_isUpper hc]

namespace Ipv6

theorem piece_go_map_toLower (left value count : Nat) (s : List Char) :
    piece.go left value count (s.map Char.toLower) =
      ((piece.go left value count s).1, (piece.go left value count s).2.1,
        (piece.go left value count s).2.2.map Char.toLower) := by
  induction left generalizing value count s with
  | zero => rfl
  | succ left ih =>
    cases s with
    | nil => rfl
    | cons c rest =>
      rw [List.map_cons, piece.go, piece.go, hexDigitValue?_toLower]
      split
      · exact ih _ _ rest
      · rfl

theorem decimalByte?_map_toLower (digits : List Char) :
    decimalByte? (digits.map Char.toLower) = decimalByte? digits := by
  by_cases hd : digits.all Char.isDigit = true
  · rw [map_toLower_of_isDigit hd]
  · have hlower : ¬ (digits.map Char.toLower).all Char.isDigit = true := by
      rwa [List.all_map, Function.comp_def, funext isDigit_toLower]
    rw [decimalByte?, decimalByte?, if_pos (.inr hlower), if_pos (.inr hd)]

theorem embedded?_map_toLower (s : List Char) : embedded? (s.map Char.toLower) = embedded? s := by
  rw [embedded?, embedded?, splitOn_map_toLower (by decide), List.mapM_map]
  simp only [Function.comp_def, decimalByte?_map_toLower]

theorem pieces?_cons {c : Char} (hc : c ≠ ':') (fuel : Nat) (before : List Nat)
    (after : Option (List Nat)) (s : List Char) : pieces? (fuel + 1) before after (c :: s) =
      if 8 ≤ taken before after then none
      else
        match (piece (c :: s)).2.2 with
        | '.' :: _ =>
          if (piece (c :: s)).2.1 = 0 ∨ 6 < taken before after then none
          else (embedded? (c :: s)).map (grow before after)
        | ':' :: more =>
          if more = [] then none
          else
            pieces? fuel (grow before after [(piece (c :: s)).1]).1
              (grow before after [(piece (c :: s)).1]).2 more
        | [] => some (grow before after [(piece (c :: s)).1])
        | _ => none := by
  rw [pieces?_succ]
  split
  · rename_i he
    cases he
  · rename_i he
    exact absurd (List.cons.inj he).1 hc
  · rfl

theorem pieces?_map_toLower (fuel : Nat) (before : List Nat) (after : Option (List Nat))
    (s : List Char) : pieces? fuel before after (s.map Char.toLower) =
      pieces? fuel before after s := by
  induction fuel generalizing before after s with
  | zero => rfl
  | succ fuel ih =>
    have hdot {c : Char} : c.toLower = '.' ↔ c = '.' := toLower_eq_iff (by decide)
    have hcolon {c : Char} : c.toLower = ':' ↔ c = ':' := toLower_eq_iff (by decide)
    cases s with
    | nil => rfl
    | cons c s =>
      by_cases hc : c = ':'
      · rw [List.map_cons, hcolon.mpr hc, hc, pieces?_succ, pieces?_succ]
        simp only [ih]
      · have hpiece : piece ((c :: s).map Char.toLower) = ((piece (c :: s)).1,
            (piece (c :: s)).2.1, (piece (c :: s)).2.2.map Char.toLower) :=
          piece_go_map_toLower 4 0 0 (c :: s)
        rw [List.map_cons, pieces?_cons (mt hcolon.mp hc), pieces?_cons hc, ← List.map_cons,
          hpiece, embedded?_map_toLower]
        obtain ⟨value, digits, rest⟩ := piece (c :: s)
        cases rest with
        | nil => rfl
        | cons d rest =>
          by_cases hd : d = '.'
          · rw [List.map_cons, hdot.mpr hd, hd]
            rfl
          · by_cases hd' : d = ':'
            · rw [List.map_cons, hcolon.mpr hd', hd']
              simp only [ih, List.map_eq_nil_iff]
            · simp [hd, hd', mt hdot.mp hd, mt hcolon.mp hd']

theorem parse?_map_toLower (s : List Char) : parse? (s.map Char.toLower) = parse? s := by
  have hcolon {c : Char} : c.toLower = ':' ↔ c = ':' := toLower_eq_iff (by decide)
  rcases s with _ | ⟨c, s⟩
  · rfl
  · by_cases hc : c = ':'
    · subst hc
      rcases s with _ | ⟨d, s⟩
      · rfl
      · by_cases hd : d = ':'
        · subst hd
          have hcolons : (':' :: ':' :: s).map Char.toLower = ':' :: ':' :: s.map Char.toLower := rfl
          rw [hcolons, parse?_colons, parse?_colons, pieces?_map_toLower, List.length_map]
        · have hlower : d.toLower ≠ ':' := mt hcolon.mp hd
          simp [parse?, hd, hlower, hcolon.mpr rfl]
    · rw [List.map_cons, parse?_cons (mt hcolon.mp hc), parse?_cons hc, ← List.map_cons,
        pieces?_map_toLower, List.length_map]

end Ipv6

theorem bracketedHost_map_toLower (s : List Char) :
    bracketedHost (s.map Char.toLower) = bracketedHost s := by
  rw [bracketedHost, bracketedHost, List.getLast?_map, ← List.map_dropLast,
    Ipv6.parse?_map_toLower]
  cases s.getLast? with
  | none => rfl
  | some c =>
    have hbracket : c.toLower = ']' ↔ c = ']' := toLower_eq_nonletter_iff (by decide)
    by_cases hc : c = ']'
    · rw [Option.map_some, hbracket.mpr hc, hc]
    · simp [hc, mt hbracket.mp hc]

section Bytes

/-- A byte, or that of the small letter if it is that of a capital one. -/
def lowerByte (b : UInt8) : Nat :=
  if 65 ≤ b.toNat ∧ b.toNat ≤ 90 then b.toNat + 32 else b.toNat

theorem utf8EncodeChar_of_ascii {c : Char} (hc : c.toNat < 128) :
    String.utf8EncodeChar c = [UInt8.ofNat c.toNat] := by
  have hle : c.val.toNat ≤ 127 := Nat.le_of_lt_succ hc
  simp only [String.utf8EncodeChar, if_pos hle]
  rfl

theorem le_of_mem_utf8EncodeChar {c : Char} (hc : 128 ≤ c.toNat) {b : UInt8}
    (hb : b ∈ String.utf8EncodeChar c) : 128 ≤ b.toNat := by
  have hgt : ¬ c.val.toNat ≤ 127 := Nat.not_le.mpr hc
  have hof {n : Nat} (hn : 128 ≤ n % 256) : 128 ≤ (UInt8.ofNat n).toNat := by
    rwa [UInt8.toNat_ofNat']
  simp only [String.utf8EncodeChar, if_neg hgt] at hb
  split_ifs at hb <;> simp only [List.mem_cons, List.not_mem_nil, or_false] at hb
  · rcases hb with rfl | rfl <;> exact hof (by omega)
  · rcases hb with rfl | rfl | rfl <;> exact hof (by omega)
  · have hmax : c.val.toNat < 0x110000 := c.valid.elim (by omega) And.right
    rcases hb with rfl | rfl | rfl | rfl <;> exact hof (by omega)

theorem eq_of_lowerByte {b b' : UInt8} (h : lowerByte b' = lowerByte b) (hb : 128 ≤ b.toNat) :
    b' = b := by
  have hlt := b'.toNat_lt
  apply UInt8.toNat_inj.mp
  unfold lowerByte at h
  split at h <;> split at h <;> omega

theorem exists_char_of_lowerByte {c : Char} {bytes : List UInt8}
    (h : bytes.map lowerByte = (String.utf8EncodeChar c).map lowerByte) :
    ∃ c', bytes = String.utf8EncodeChar c' ∧ c'.toLower = c.toLower := by
  by_cases hc : c.toNat < 128
  · rw [utf8EncodeChar_of_ascii hc, List.map_singleton] at h
    obtain ⟨b, rfl, hb⟩ := List.map_eq_singleton_iff.mp h
    have hn : (UInt8.ofNat c.toNat).toNat = c.toNat := by
      rw [UInt8.toNat_ofNat']
      exact Nat.mod_eq_of_lt (by omega)
    simp only [lowerByte, hn] at hb
    have hlt : b.toNat < 128 := by
      split at hb <;> split at hb <;> omega
    have hall : ∀ n < 128, (Char.ofNat n).toNat = n := by decide
    have hval : (Char.ofNat b.toNat).toNat = b.toNat := hall _ hlt
    refine ⟨Char.ofNat b.toNat, ?_, ?_⟩
    · rw [utf8EncodeChar_of_ascii (by omega), hval, UInt8.ofNat_toNat]
    · apply Char.toNat_inj.mp
      rw [toNat_toLower, toNat_toLower, hval]
      exact hb
  · -- beyond ASCII the bytes have no case
    have hge : ∀ b ∈ String.utf8EncodeChar c, 128 ≤ b.toNat :=
      fun b => le_of_mem_utf8EncodeChar (by omega)
    refine ⟨c, ?_, rfl⟩
    generalize String.utf8EncodeChar c = cs at h hge
    induction cs generalizing bytes with
    | nil => exact List.map_eq_nil_iff.mp h
    | cons b cs ih =>
      obtain ⟨b', bytes, rfl, hb, hbytes⟩ := List.map_eq_cons_iff.mp h
      rw [eq_of_lowerByte hb (hge b List.mem_cons_self),
        ih hbytes fun b hm => hge b (List.mem_cons_of_mem _ hm)]

/-- Bytes that are those of a text up to the case of ASCII letters are a text, and the same one up
to that case. -/
theorem exists_text_of_lowerByte {s : List Char} {bytes : List UInt8}
    (h : bytes.map lowerByte = (s.flatMap String.utf8EncodeChar).map lowerByte) :
    ∃ s' : List Char, bytes = s'.flatMap String.utf8EncodeChar ∧
      s'.map Char.toLower = s.map Char.toLower := by
  induction s generalizing bytes with
  | nil => exact ⟨[], List.map_eq_nil_iff.mp h, rfl⟩
  | cons c s ih =>
    rw [List.flatMap_cons, List.map_append] at h
    obtain ⟨front, back, rfl, hfront, hback⟩ := List.map_eq_append_iff.mp h
    obtain ⟨c', rfl, hc⟩ := exists_char_of_lowerByte hfront
    obtain ⟨s', rfl, hs⟩ := ih hback
    exact ⟨c' :: s', rfl, by rw [List.map_cons, List.map_cons, hc, hs]⟩

/-- The text of bytes, in lower case. -/
def lowerText? (bytes : List UInt8) : Option (List Char) :=
  (String.fromUTF8? ⟨bytes.toArray⟩).map fun t => t.toList.map Char.toLower

theorem lowerText?_flatMap (s : List Char) :
    lowerText? (s.flatMap String.utf8EncodeChar) = some (s.map Char.toLower) := by
  rw [lowerText?, fromUTF8?_flatMap, Option.map_some, String.toList_ofList]

theorem lowerText?_cases (bytes : List UInt8) :
    (∃ s : List Char, bytes = s.flatMap String.utf8EncodeChar) ∨ lowerText? bytes = none := by
  by_cases h : ByteArray.IsValidUTF8 ⟨bytes.toArray⟩
  · obtain ⟨s, hs⟩ := h
    rw [List.utf8Encode, ByteArray.ext_iff, List.data_toByteArray] at hs
    exact .inl ⟨s, congrArg Array.toList hs⟩
  · rw [lowerText?, String.fromUTF8?, dif_neg h]
    exact .inr rfl

theorem lowerText?_congr {bytes bytes' : List UInt8}
    (h : bytes.map lowerByte = bytes'.map lowerByte) : lowerText? bytes = lowerText? bytes' := by
  rcases lowerText?_cases bytes with ⟨s, rfl⟩ | hnone
  · obtain ⟨s', rfl, hs⟩ := exists_text_of_lowerByte h.symm
    rw [lowerText?_flatMap, lowerText?_flatMap, hs]
  · rcases lowerText?_cases bytes' with ⟨s', rfl⟩ | hnone'
    · obtain ⟨s, rfl, hs⟩ := exists_text_of_lowerByte h
      rw [lowerText?_flatMap, lowerText?_flatMap, hs]
    · rw [hnone, hnone']

theorem lowerByte_utf8EncodeChar (c : Char) :
    (String.utf8EncodeChar c.toLower).map lowerByte = (String.utf8EncodeChar c).map lowerByte := by
  by_cases hc : 65 ≤ c.toNat ∧ c.toNat ≤ 90
  · have hn : c.toLower.toNat = c.toNat + 32 := (toNat_toLower c).trans (if_pos hc)
    have hall : ∀ n < 91, 65 ≤ n →
        lowerByte (UInt8.ofNat (n + 32)) = lowerByte (UInt8.ofNat n) := by decide
    rw [utf8EncodeChar_of_ascii (by omega), utf8EncodeChar_of_ascii (by omega), hn,
      List.map_singleton, List.map_singleton, hall _ (by omega) hc.1]
  · rw [toLower_of_not_isUpper hc]

theorem NoDigits.map_toLower {s : List Char} (h : NoDigits s) : NoDigits (s.map Char.toLower) := by
  intro a b rest he
  obtain ⟨a, s, rfl, rfl, hs⟩ := List.map_eq_cons_iff.mp he
  obtain ⟨b, rest, rfl, rfl, -⟩ := List.map_eq_cons_iff.mp hs
  rw [hexDigitValue?_toLower, hexDigitValue?_toLower]
  exact h a b rest rfl

theorem lowerByte_percentDecode (s : List Char) :
    (percentDecode (s.map Char.toLower)).map lowerByte = (percentDecode s).map lowerByte := by
  have hpercent {c : Char} : c.toLower = '%' ↔ c = '%' := toLower_eq_nonletter_iff (by decide)
  have hplain {s : List Char} (hn : NoDigits s)
      (ih : (percentDecode (s.map Char.toLower)).map lowerByte = (percentDecode s).map lowerByte) :
      (percentDecode (('%' :: s).map Char.toLower)).map lowerByte =
        (percentDecode ('%' :: s)).map lowerByte := by
    rw [List.map_cons, hpercent.mpr rfl, percentDecode_percent hn.map_toLower,
      percentDecode_percent hn, List.map_append, List.map_append, ih]
  fun_induction percentDecode s with
  | case1 => rfl
  | case2 a b rest x y ha hb ih =>
    have hlower : ('%' :: a :: b :: rest).map Char.toLower =
        '%' :: a.toLower :: b.toLower :: rest.map Char.toLower := rfl
    rw [hlower, percentDecode, hexDigitValue?_toLower, hexDigitValue?_toLower, ha, hb]
    exact congrArg (_ :: ·) ih
  | case3 a b rest hn ih =>
    have hdigits : NoDigits (a :: b :: rest) := by
      rintro _ _ _ ⟨⟩
      cases ha : hexDigitValue? a with
      | none => exact .inl rfl
      | some x => exact .inr (Option.eq_none_iff_forall_ne_some.mpr fun y hb => hn x y ha hb)
    exact (hplain hdigits ih).trans (by rw [percentDecode_percent hdigits])
  | case4 c rest hn ih =>
    by_cases hc : c = '%'
    · subst hc
      have hdigits : NoDigits rest := fun a b more he => (hn a b more rfl he).elim
      exact (hplain hdigits ih).trans (by rw [percentDecode_percent hdigits])
    · rw [List.map_cons, percentDecode_cons (mt hpercent.mp hc), List.map_append, List.map_append,
        ih, lowerByte_utf8EncodeChar]

end Bytes

end Url

namespace Idna

theorem map?_toLower (c : Char) : map? c.toLower = map? c := by
  by_cases hc : 65 ≤ c.toNat ∧ c.toNat ≤ 90
  · have hn : c.toLower.toNat = c.toNat + 32 := (toNat_toLower c).trans (if_pos hc)
    rw [map?, map?, if_pos (by omega), if_pos (by omega), toLower_of_not_isUpper (by omega)]
  · rw [toLower_of_not_isUpper hc]

theorem toAscii?_map_toLower (s : List Char) : toAscii? (s.map Char.toLower) = toAscii? s := by
  rw [toAscii?, toAscii?, List.mapM_map, Function.comp_def, funext map?_toLower]

end Idna

namespace Url

/-- The host of a name as it is after its mapping, if it has one. -/
def hostOfName : Option (List Char) → Except UrlError Host
  | none => .error .invalidDomainName
  | some [] => .error .emptyHost
  | some name =>
    if Ipv4.endsInNumber name then
      match Ipv4.parse? name with
      | some address => .ok (.ipv4 address)
      | none => .error .invalidIpv4
    else .ok (.domain (String.ofList name))

/-- A host that does not stand in brackets is read from its text in lower case. -/
theorem domainHost_of_lowerText? {s : List Char} (hs : ∀ rest, s ≠ '[' :: rest) :
    domainHost s = (lowerText? (percentDecode s)).elim (.error .invalidDomainName)
      fun text => hostOfName (Idna.toAscii? text) := by
  unfold domainHost
  split
  · rename_i rest
    exact absurd rfl (hs rest)
  · rw [lowerText?]
    cases String.fromUTF8? ⟨(percentDecode s).toArray⟩ with
    | none => rfl
    | some decoded =>
      simp only [Option.map_some, Option.elim_some, Idna.toAscii?_map_toLower]
      rcases Idna.toAscii? decoded.toList with _ | _ | ⟨c, name⟩ <;> rfl

theorem domainHost_map_toLower (s : List Char) :
    domainHost (s.map Char.toLower) = domainHost s := by
  have hbracket {c : Char} : c.toLower = '[' ↔ c = '[' := toLower_eq_nonletter_iff (by decide)
  by_cases hs : ∃ rest, s = '[' :: rest
  · obtain ⟨rest, rfl⟩ := hs
    rw [List.map_cons, hbracket.mpr rfl]
    exact bracketedHost_map_toLower rest
  · have hlower : ∀ rest, s.map Char.toLower ≠ '[' :: rest := by
      intro rest he
      obtain ⟨c, rest, rfl, hc, -⟩ := List.map_eq_cons_iff.mp he
      exact hs ⟨rest, by rw [hbracket.mp hc]⟩
    rw [domainHost_of_lowerText? hlower, domainHost_of_lowerText? (not_exists.mp hs),
      lowerText?_congr (lowerByte_percentDecode s)]

theorem isForbiddenHostChar_toLower (c : Char) :
    isForbiddenHostChar c.toLower = isForbiddenHostChar c := by
  have hplain : ['\x00', '\t', '\n', '\r', ' ', '#', '/', ':', '<', '>', '?', '@', '[', '\\', ']',
      '^', '|'].all (fun d => !d.isAlpha) = true := by decide
  have hall (d : Char) (hd : d ∈ _) : c.toLower = d ↔ c = d :=
    toLower_eq_nonletter_iff (by simpa using List.all_eq_true.mp hplain d hd)
  rw [isForbiddenHostChar, isForbiddenHostChar, decide_eq_decide]
  constructor
  · intro hm
    have he : c = c.toLower := (hall _ hm).mp rfl
    rwa [← he] at hm
  · intro hm
    rwa [(hall _ hm).mpr rfl]

theorem encodeChar_toLower (c : Char) : (encodeChar controlSet c.toLower).map Char.toLower =
    (encodeChar controlSet c).map Char.toLower := by
  by_cases hc : 65 ≤ c.toNat ∧ c.toNat ≤ 90
  · have hn : c.toLower.toNat = c.toNat + 32 := (toNat_toLower c).trans (if_pos hc)
    have hset {d : Char} (hd : 0x20 ≤ d.toNat ∧ d.toNat < 0x7F) : controlSet d = false := by
      simp only [controlSet, isAsciiControl, Bool.or_eq_false_iff, decide_eq_false_iff_not,
        beq_eq_false_iff_ne]
      omega
    rw [encodeChar, encodeChar, hset (by omega), hset (by omega)]
    simp only [Bool.false_eq_true, if_false, List.map_singleton]
    rw [toLower_of_not_isUpper (by omega)]
  · rw [toLower_of_not_isUpper hc]

/-- A host as it is compared. -/
def Host.folded (h : Host) : List Char := h.write.toList.map Char.toLower

theorem Host.folded_eq_nil_iff (h : Host) : h.folded = [] ↔ h = .domain "" := by
  rw [folded, List.map_eq_nil_iff, String.toList_eq_nil_iff]
  cases h with
  | domain name => simp [write]
  | ipv4 address => simp [write, Ipv4.write]
  | ipv6 pieces => simp [write]

theorem percentEncode_map_toLower (s : List Char) :
    (percentEncode controlSet (s.map Char.toLower)).map Char.toLower =
      (percentEncode controlSet s).map Char.toLower := by
  induction s with
  | nil => rfl
  | cons c s ih =>
    simp only [percentEncode, List.map_cons, List.flatMap_cons, List.map_append] at ih ⊢
    rw [encodeChar_toLower, ih]

theorem plainHost_map_toLower (s : List Char) :
    (plainHost (s.map Char.toLower)).map Host.folded = (plainHost s).map Host.folded := by
  have hbracket {c : Char} : c.toLower = '[' ↔ c = '[' := toLower_eq_nonletter_iff (by decide)
  by_cases hs : ∃ rest, s = '[' :: rest
  · obtain ⟨rest, rfl⟩ := hs
    rw [List.map_cons, hbracket.mpr rfl]
    exact congrArg (Except.map Host.folded) (bracketedHost_map_toLower rest)
  · have hlower : ∀ rest, s.map Char.toLower = '[' :: rest → False := by
      intro rest he
      obtain ⟨c, rest, rfl, hc, -⟩ := List.map_eq_cons_iff.mp he
      exact hs ⟨rest, by rw [hbracket.mp hc]⟩
    have hany : (s.map Char.toLower).any isForbiddenHostChar = s.any isForbiddenHostChar := by
      rw [List.any_map, Function.comp_def, funext isForbiddenHostChar_toLower]
    rw [plainHost.eq_2 _ hlower, plainHost.eq_2 _ (not_exists.mp hs), hany]
    split
    · rfl
    · simp only [Except.map, Host.folded, Host.write, String.toList_ofList,
        percentEncode_map_toLower]

end Url
end GuestNet
