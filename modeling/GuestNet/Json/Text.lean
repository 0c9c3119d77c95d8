import GuestNet.Json.Reader

/-! Text values: quoted, with escapes. The readers start after the opening quote. -/
namespace GuestNet.Json

def hexValue? (c : Char) : Option Nat :=
  if '0' ≤ c ∧ c ≤ '9' then some (c.toNat - '0'.toNat)
  else if 'a' ≤ c ∧ c ≤ 'f' then some (c.toNat - 'a'.toNat + 10)
  else if 'A' ≤ c ∧ c ≤ 'F' then some (c.toNat - 'A'.toNat + 10)
  else none

/-- Reads the four bytes after `\u`, which have to be hexadecimal digits. -/
def hexUnit (s : List Char) : Except Fault (Nat × List Char) :=
  if byteCount s < 4 then .error (.before .endInText [])
  else
    match s with
    | a :: b :: c :: d :: rest =>
      match hexValue? a, hexValue? b, hexValue? c, hexValue? d with
      | some a, some b, some c, some d => .ok (((a * 16 + b) * 16 + c) * 16 + d, rest)
      | _, _, _, _ => .error ⟨.invalidEscape, byteCount s - 4⟩
    | _ => .error ⟨.invalidEscape, byteCount s - 4⟩

def isLeading (n : Nat) : Bool := 0xD800 ≤ n && n ≤ 0xDBFF

def isTrailing (n : Nat) : Bool := 0xDC00 ≤ n && n ≤ 0xDFFF

/-- Reads the second half of a character that is written as two units. -/
def trailingUnit (leading : Nat) : List Char → Except Fault (Char × List Char)
  | [] => .error (.before .endInText [])
  | ['\\'] => .error (.before .endInText [])
  | '\\' :: 'u' :: rest =>
    match hexUnit rest with
    | .error fault => .error fault
    | .ok (n, rest) =>
      if isTrailing n then
        .ok (Char.ofNat (0x10000 + (leading - 0xD800) * 0x400 + (n - 0xDC00)), rest)
      else .error (.before .loneSurrogate rest)
  | '\\' :: rest => .error (.onto .endOfHexEscape rest)
  | rest => .error (.onto .endOfHexEscape rest)

/-- The escapes of one letter, each with the character for which it stands. -/
def letterEscapes : List (Char × Char) :=
  [('"', '"'), ('\\', '\\'), ('/', '/'), ('b', '\x08'), ('f', '\x0c'), ('n', '\n'), ('r', '\r'),
    ('t', '\t')]

/-- Reads the character that one or two hexadecimal escapes stand for, from after the first `\u`. -/
def unicodeEscape (s : List Char) : Except Fault (Char × List Char) :=
  match hexUnit s with
  | .error fault => .error fault
  | .ok (n, rest) =>
    if isTrailing n then .error (.before .loneSurrogate rest)
    else if isLeading n then trailingUnit n rest
    else .ok (Char.ofNat n, rest)

/-- Reads the character for which an escape stands, from after the backslash. -/
def escape : List Char → Except Fault (Char × List Char)
  | [] => .error (.before .endInText [])
  | c :: rest =>
    if c = 'u' then unicodeEscape rest
    else
      match letterEscapes.lookup c with
      | some meant => .ok (meant, rest)
      | none => .error (.onto .invalidEscape (c :: rest))

theorem hexUnit_length {s rest : List Char} {n : Nat} (h : hexUnit s = .ok (n, rest)) :
    rest.length < s.length := by
  unfold hexUnit at h
  split at h
  · cases h
  · split at h
    · split at h
      · cases h
        simp +arith
      · cases h
    · cases h

theorem trailingUnit_length {k : Nat} {s rest : List Char} {c : Char}
    (h : trailingUnit k s = .ok (c, rest)) : rest.length < s.length := by
  unfold trailingUnit at h
  split at h
  · cases h
  · cases h
  · split at h
    · cases h
    · rename_i hu
      have := hexUnit_length hu
      split at h
      · simp only [Except.ok.injEq, Prod.mk.injEq] at h
        obtain ⟨-, rfl⟩ := h
        simp only [List.length_cons]
        omega
      · cases h
  · cases h
  · cases h

theorem unicodeEscape_length {s rest : List Char} {c : Char}
    (h : unicodeEscape s = .ok (c, rest)) : rest.length < s.length := by
  unfold unicodeEscape at h
  split at h
  · cases h
  · rename_i hu
    have := hexUnit_length hu
    split at h
    · cases h
    · split at h
      · have := trailingUnit_length h
        omega
      · cases h
        exact this

theorem escape_length {s rest : List Char} {c : Char} (h : escape s = .ok (c, rest)) :
    rest.length < s.length := by
  cases s with
  | nil => cases h
  | cons d s =>
    rw [escape] at h
    split at h
    · have := unicodeEscape_length h
      simp only [List.length_cons]
      omega
    · split at h
      · cases h
        simp
      · cases h

/-- Reads a text up to its closing quote. No character below the space stands for itself. -/
def text (s : List Char) : Except Fault (String × List Char) :=
  go s []
where
  go (s : List Char) (done : List Char) : Except Fault (String × List Char) :=
    match s with
    | [] => .error (.before .endInText [])
    | '"' :: rest => .ok (String.ofList done.reverse, rest)
    | '\\' :: rest =>
      match h : escape rest with
      | .error fault => .error fault
      | .ok (c, rest') =>
        have := escape_length h
        go rest' (c :: done)
    | c :: rest =>
      if c.toNat < 0x20 then .error (.onto .controlCharacter (c :: rest)) else go rest (c :: done)
  termination_by s.length

/-- Passes over an escape: the characters for which units stand do not matter. -/
def skipEscape : List Char → Except Fault (List Char)
  | [] => .error (.before .endInText [])
  | c :: rest =>
    if c = 'u' then (hexUnit rest).map (·.2)
    else if (letterEscapes.lookup c).isSome then .ok rest
    else .error (.onto .invalidEscape (c :: rest))

theorem skipEscape_length {s rest : List Char} (h : skipEscape s = .ok rest) :
    rest.length < s.length := by
  cases s with
  | nil => cases h
  | cons d s =>
    rw [skipEscape] at h
    split at h
    · cases hu : hexUnit s with
      | error e => rw [hu] at h; cases h
      | ok p =>
        have := hexUnit_length hu
        rw [hu] at h
        cases h
        simp only [List.length_cons]
        omega
    · split at h
      · cases h
        simp
      · cases h

/-- Passes over a text. -/
def skipText (s : List Char) : Except Fault (List Char) :=
  match s with
  | [] => .error (.before .endInText [])
  | '"' :: rest => .ok rest
  | '\\' :: rest =>
    match h : skipEscape rest with
    | .error fault => .error fault
    | .ok rest' =>
      have := skipEscape_length h
      skipText rest'
  | c :: rest =>
    if c.toNat < 0x20 then .error (.before .controlCharacter (c :: rest)) else skipText rest
termination_by s.length

theorem skipText_length {s rest : List Char} (h : skipText s = .ok rest) :
    rest.length < s.length := by
  fun_induction skipText s with
  | case1 => cases h
  | case2 r => cases h; simp
  | case3 => cases h
  | case4 r r' hr hlt ih =>
    have := ih h
    simp only [List.length_cons]
    omega
  | case5 => cases h
  | case6 c r _ _ _ ih =>
    have := ih h
    simp only [List.length_cons]
    omega

end GuestNet.Json
