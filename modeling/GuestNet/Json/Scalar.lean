import GuestNet.Json.Skip

/-! Readers of single values: naturals, flags, texts, and values that may be absent. -/
namespace GuestNet.Json

/-- A reader never gives back more than it got. -/
def Consumes {α : Type} (reader : Reader α) : Prop :=
  ∀ s v rest, reader s = .ok (v, rest) → rest.length ≤ s.length

/-- The failure of a reader that expected something else than the value at which it stands. The
place is after a scalar, and right before a list or an object. -/
def mismatch (expected : String) (s : List Char) : Fault :=
  let reading {α : Type} (found : α → Found) : Except Fault (α × List Char) → Fault
    | .error fault => fault
    | .ok (value, rest) => .before (.invalidType (found value) expected) rest
  let readingWord (found : Found) (r : Except Fault (List Char)) : Fault :=
    reading (fun () => found) (r.map fun rest => ((), rest))
  match s with
  | [] => .onto .endInValue []
  | 'n' :: rest => readingWord .null (word ['u', 'l', 'l'] rest)
  | 't' :: rest => readingWord (.flag true) (word ['r', 'u', 'e'] rest)
  | 'f' :: rest => readingWord (.flag false) (word ['a', 'l', 's', 'e'] rest)
  | '-' :: rest => reading Number.found (Number.read true rest)
  | '"' :: rest => reading Found.text (text rest)
  | '[' :: rest => .before (.invalidType .list expected) ('[' :: rest)
  | '\x7b' :: rest => .before (.invalidType .object expected) ('\x7b' :: rest)
  | c :: rest =>
    if c.isDigit then reading Number.found (Number.read false (c :: rest))
    else .onto .expectedValue (c :: rest)

/-- Takes an integer that is not negative. -/
def acceptNatural (expected : String) :
    Except Fault (Number × List Char) → Except Fault (Nat × List Char)
  | .error fault => .error fault
  | .ok (.natural n, rest) => .ok (n, rest)
  | .ok (.negative n, rest) => .error (.before (.invalidValue (.negative n) expected) rest)
  | .ok (number, rest) => .error (.before (.invalidType number.found expected) rest)

/-- Reads an integer that is not negative; `expected` names its kind. -/
def natural (expected : String) : Reader Nat := fun s =>
  match skipBlanks s with
  | [] => .error (.onto .endInValue [])
  | '-' :: rest => acceptNatural expected (Number.read true rest)
  | c :: rest =>
    if c.isDigit then acceptNatural expected (Number.read false (c :: rest))
    else .error (mismatch expected (c :: rest))

def flag : Reader Bool := fun s =>
  match skipBlanks s with
  | [] => .error (.onto .endInValue [])
  | 't' :: rest => (word ['r', 'u', 'e'] rest).map (true, ·)
  | 'f' :: rest => (word ['a', 'l', 's', 'e'] rest).map (false, ·)
  | rest => .error (mismatch "a boolean" rest)

def string : Reader String := fun s =>
  match skipBlanks s with
  | [] => .error (.onto .endInValue [])
  | '"' :: rest => text rest
  | rest => .error (mismatch "a string" rest)

/-- Reads `null` as nothing. -/
def optional {α : Type} (reader : Reader α) : Reader (Option α) := fun s =>
  match skipBlanks s with
  | 'n' :: rest => (word ['u', 'l', 'l'] rest).map (none, ·)
  | rest => (reader rest).map fun (value, rest) => (some value, rest)

theorem text_length {s rest : List Char} {v : String} (h : text s = .ok (v, rest)) :
    rest.length < s.length := by
  unfold text at h
  generalize [] = done at h
  fun_induction text.go s done with
  | case1 => cases h
  | case2 => cases h; simp
  | case3 => cases h
  | case4 _ r c r' hr hlt ih =>
    have := ih h
    simp only [List.length_cons]
    omega
  | case5 => cases h
  | case6 _ c r _ _ _ ih =>
    have := ih h
    simp only [List.length_cons]
    omega

theorem string_length {s rest : List Char} {v : String} (h : string s = .ok (v, rest)) :
    rest.length < s.length := by
  have hb := skipBlanks_length_le s
  unfold string at h
  split at h
  · cases h
  · rename_i e
    rw [e, List.length_cons] at hb
    have := text_length h
    omega
  · cases h

theorem consumes_string : Consumes string := fun _ _ _ h => Nat.le_of_lt (string_length h)

theorem map_word_eq_ok {α : Type} {ws s : List Char} {v w : α} {rest : List Char}
    (h : (word ws s).map (v, ·) = .ok (w, rest)) : word ws s = .ok rest := by
  cases e : word ws s with
  | error => rw [e] at h; cases h
  | ok r => rw [e] at h; cases h; rfl

theorem consumes_flag : Consumes flag := by
  intro s v rest h
  have hb := skipBlanks_length_le s
  unfold flag at h
  split at h
  · cases h
  · rename_i e
    rw [e, List.length_cons] at hb
    have := word_length_le (map_word_eq_ok h)
    omega
  · rename_i e
    rw [e, List.length_cons] at hb
    have := word_length_le (map_word_eq_ok h)
    omega
  · cases h

theorem acceptNatural_eq_ok {expected : String} {r : Except Fault (Number × List Char)} {n : Nat}
    {rest : List Char} (h : acceptNatural expected r = .ok (n, rest)) :
    r = .ok (.natural n, rest) := by
  unfold acceptNatural at h
  split at h
  · cases h
  · cases h; rfl
  · cases h
  · cases h

theorem consumes_natural (expected : String) : Consumes (natural expected) := by
  intro s v rest h
  have hb := skipBlanks_length_le s
  unfold natural at h
  split at h
  · cases h
  · rename_i e
    rw [e, List.length_cons] at hb
    have := Number.read_length_le (acceptNatural_eq_ok h)
    omega
  · rename_i e
    rw [e] at hb
    split at h
    · exact Nat.le_trans (Number.read_length_le (acceptNatural_eq_ok h)) hb
    · cases h

theorem consumes_optional {α : Type} {reader : Reader α} (hr : Consumes reader) :
    Consumes (optional reader) := by
  intro s v rest h
  have hb := skipBlanks_length_le s
  unfold optional at h
  split at h
  · rename_i e
    rw [e, List.length_cons] at hb
    have := word_length_le (map_word_eq_ok h)
    omega
  · cases e : reader (skipBlanks s) with
    | error => rw [e] at h; cases h
    | ok p =>
      rw [e] at h
      cases h
      exact Nat.le_trans (hr _ _ _ e) hb

end GuestNet.Json
