import GuestNet.Proofs.Text.ByteOrder
import GuestNet.Proofs.Text.Graphic
import GuestNet.Proofs.Url.LetterCase

/-! The words of a message head, by their characters and by their bytes. Tokens are visible ASCII
in either letter case, and no byte of a value ends a line. -/
namespace GuestNet

open Text (IsGraphic isGraphic_of_all)

namespace Bytes

/-- A byte of a text belongs to an ASCII character or to none. -/
theorem exists_of_mem_ofText {s : String} {b : UInt8} (hb : b ∈ ofText s) :
    ∃ c ∈ s.toList, b.toNat = c.toNat ∨ 128 ≤ c.toNat ∧ 128 ≤ b.toNat := by
  rw [ofText_eq_flatMap] at hb
  obtain ⟨c, hc, hb⟩ := List.mem_flatMap.mp hb
  refine ⟨c, hc, ?_⟩
  by_cases hascii : c.toNat < 128
  · rw [Url.utf8EncodeChar_of_ascii hascii, List.mem_singleton] at hb
    rw [hb, UInt8.toNat_ofNat']
    exact .inl (Nat.mod_eq_of_lt (by omega))
  · exact .inr ⟨Nat.le_of_not_lt hascii, Url.le_of_mem_utf8EncodeChar (Nat.le_of_not_lt hascii) hb⟩

end Bytes

namespace Http

theorem isTokenChar_toLower (c : Char) : isTokenChar c.toLower = isTokenChar c := by
  by_cases hc : 65 ≤ c.toNat ∧ c.toNat ≤ 90
  · have hupper : c.isAlphanum = true := by
      rw [Char.isAlphanum, isAlpha_iff.mpr (.inl hc), Bool.true_or]
    have hlower : c.toLower.isAlphanum = true := by
      rwa [Char.isAlphanum, Url.isAlpha_toLower, isDigit_toLower]
    rw [isTokenChar, isTokenChar, hlower, hupper, Bool.true_or, Bool.true_or]
  · rw [toLower_of_not_isUpper hc]

theorem isToken_map_toLower (s : List Char) : isToken (s.map Char.toLower) = isToken s := by
  simp only [isToken, List.all_map, Function.comp_def, isTokenChar_toLower, ne_eq,
    List.map_eq_nil_iff]

theorem isToken_lowerCase (name : String) :
    isToken (lowerCase name).toList = isToken name.toList := by
  rw [lowerCase, String.toList_ofList, isToken_map_toLower]

/-- Whether a text is a name does not depend on its letter case. -/
theorem isHeaderName_congr {name name' : String} (h : lowerCase name = lowerCase name') :
    isHeaderName name.toList = isHeaderName name'.toList := by
  have hmap : name.toList.map Char.toLower = name'.toList.map Char.toLower :=
    String.ofList_injective h
  have hlength := congrArg List.length hmap
  rw [List.length_map, List.length_map] at hlength
  rw [isHeaderName, isHeaderName, ← isToken_map_toLower, hmap, isToken_map_toLower, hlength]

/-- A byte that stands in the value of a header. -/
def IsValueByte (b : UInt8) : Prop := b.toNat = 9 ∨ 0x20 ≤ b.toNat ∧ b.toNat ≠ 0x7F

theorem isValueByte_of_isHeaderValue {value : String} (h : isHeaderValue value.toList = true) :
    ∀ b ∈ Bytes.ofText value, IsValueByte b := by
  intro b hb
  obtain ⟨c, hc, he | ⟨-, hle⟩⟩ := Bytes.exists_of_mem_ofText hb
  · have hchar := List.all_eq_true.mp h c hc
    rw [Bool.or_eq_true, Bool.and_eq_true, decide_eq_true_iff, decide_eq_true_iff,
      beq_iff_eq] at hchar
    rw [IsValueByte, he]
    exact hchar.imp_left fun htab => by rw [htab]; rfl
  · exact .inr ⟨by omega, by omega⟩

theorem isHeaderValue_of_isGraphic {s : List Char} (h : ∀ c ∈ s, IsGraphic c) :
    isHeaderValue s = true := by
  refine List.all_eq_true.mpr fun c hc => ?_
  obtain ⟨hlow, hhigh⟩ := h c hc
  rw [Bool.or_eq_true, Bool.and_eq_true, decide_eq_true_iff, decide_eq_true_iff]
  exact .inr ⟨by omega, by omega⟩

end Http
end GuestNet
