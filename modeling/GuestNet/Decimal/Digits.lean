/-! Natural numbers in decimal digits, most significant first. -/
namespace GuestNet.Decimal

/-- The digit of a value below ten. -/
def digit (d : Nat) : Char := Char.ofNat ('0'.toNat + d)

def digitValue (c : Char) : Nat := c.toNat - '0'.toNat

def digits (n : Nat) : List Char :=
  if n < 10 then [digit n] else digits (n / 10) ++ [digit (n % 10)]

def value (ds : List Char) : Nat := ds.foldl (fun n d => 10 * n + digitValue d) 0

theorem digitValue_digit {d : Nat} (h : d < 10) : digitValue (digit d) = d := by
  have all : ∀ d < 10, digitValue (digit d) = d := by decide
  exact all d h

theorem isDigit_digit {d : Nat} (h : d < 10) : (digit d).isDigit := by
  have all : ∀ d < 10, (digit d).isDigit := by decide
  exact all d h

theorem value_digits (n : Nat) : value (digits n) = n := by
  rw [digits]
  split
  · simp [value, digitValue_digit (by assumption)]
  · have ih := value_digits (n / 10)
    simp only [value, List.foldl_append, List.foldl_cons, List.foldl_nil] at ih ⊢
    rw [ih, digitValue_digit (by omega)]
    omega
termination_by n
decreasing_by omega

theorem isDigit_of_mem_digits {n : Nat} {c : Char} (h : c ∈ digits n) : c.isDigit := by
  rw [digits] at h
  split at h
  · obtain rfl := List.mem_singleton.1 h
    exact isDigit_digit (by assumption)
  · rcases List.mem_append.1 h with h | h
    · exact isDigit_of_mem_digits h
    · obtain rfl := List.mem_singleton.1 h
      exact isDigit_digit (by omega)
termination_by n
decreasing_by omega

end GuestNet.Decimal
