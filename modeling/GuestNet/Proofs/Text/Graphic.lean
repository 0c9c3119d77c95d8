import GuestNet.Proofs.Idna.AsciiLabel
import GuestNet.Text.Base64

/-! Texts of visible ASCII characters. No space stands in such a text, no control and no end of a
line. -/
namespace GuestNet.Text

/-- A visible character of ASCII. -/
def IsGraphic (c : Char) : Prop := 0x20 < c.toNat ∧ c.toNat < 0x7F

instance : DecidablePred IsGraphic := fun c => inferInstanceAs (Decidable (0x20 < c.toNat ∧ _))

/-- The characters of a given text are looked at one by one. -/
theorem isGraphic_of_all {s : List Char} (h : s.all (IsGraphic ·) = true) :
    ∀ c ∈ s, IsGraphic c := by
  simpa using h

theorem isGraphic_of_isAlphanum {c : Char} (h : c.isAlphanum = true) : IsGraphic c := by
  rw [Char.isAlphanum, Bool.or_eq_true] at h
  rcases h with h | h
  · have hrange := isAlpha_iff.mp h
    exact ⟨by omega, by omega⟩
  · have hrange : 48 ≤ c.toNat ∧ c.toNat ≤ 57 := Char.isDigit_iff_toNat.mp h
    exact ⟨by omega, by omega⟩

theorem isGraphic_toString (n : Nat) : ∀ c ∈ (toString n).toList, IsGraphic c := by
  intro c hc
  have hdigits : (toString n).toList = Nat.toDigits 10 n := Nat.toList_repr
  rw [hdigits] at hc
  have hdigit : c.isDigit = true := Nat.isDigit_of_mem_toDigits (by decide) (Nat.le_refl 10) hc
  exact isGraphic_of_isAlphanum (by rw [Char.isAlphanum, hdigit, Bool.or_true])

end GuestNet.Text
