import GuestNet.TextMap
import GuestNet.Json.Scalar

/-! Readers of lists of texts and of maps from text to text. -/
namespace GuestNet.Json

theorem nextItem_length_le {isFirst : Bool} {s item : List Char}
    (h : nextItem isFirst s = .ok (some item)) : item.length ≤ s.length := by
  have hb := skipBlanks_length_le s
  unfold nextItem at h
  split at h
  · cases h
  · cases h
  · rename_i c rest _ e
    rw [e, List.length_cons] at hb
    have hr := skipBlanks_length_le rest
    split at h
    · cases h
      simpa using hb
    · split at h
      · split at h
        · cases h
        · cases h
        · cases h
          omega
      · cases h

theorem nextKey_length {isFirst : Bool} {s key : List Char}
    (h : nextKey isFirst s = .ok (some key)) : key.length < s.length := by
  have hkey {r : List Char} (h : nextKey.key r = .ok (some key)) : key.length < r.length := by
    unfold nextKey.key at h
    split at h
    · cases h
    · cases h; simp
    · cases h
    · cases h
  have hb := skipBlanks_length_le s
  unfold nextKey at h
  split at h
  · cases h
  · cases h
  · rename_i c rest _ e
    rw [e, List.length_cons] at hb
    have hr := skipBlanks_length_le rest
    split at h
    · have := hkey h
      simp only [List.length_cons] at this
      omega
    · split at h
      · have := hkey h
        omega
      · cases h

/-- Reads the texts of a list after its opening bracket. -/
def items (isFirst : Bool) (done : List String) (s : List Char) :
    Except Fault (List String × List Char) :=
  match hn : nextItem isFirst s with
  | .error fault => .error fault
  | .ok none => .ok (done.reverse, s)
  | .ok (some item) =>
    match hs : string item with
    | .error fault => .error fault
    | .ok (value, rest) =>
      have := nextItem_length_le hn
      have := string_length hs
      items false (value :: done) rest
termination_by s.length

def texts : Reader (List String) := fun s =>
  match skipBlanks s with
  | [] => .error (.onto .endInValue [])
  | '[' :: rest =>
    match items true [] rest with
    | .error fault => .error fault
    | .ok (values, rest) => (closeList rest).map (values, ·)
  | rest => .error (mismatch "a sequence" rest)

/-- Reads the entries of an object of texts after its opening brace. The last entry with a key
replaces those before it. -/
def entries (isFirst : Bool) (done : TextMap) (s : List Char) :
    Except Fault (TextMap × List Char) :=
  match hn : nextKey isFirst s with
  | .error fault => .error fault
  | .ok none => .ok (done, s)
  | .ok (some keyText) =>
    match hk : text keyText with
    | .error fault => .error fault
    | .ok (key, rest) =>
      match hc : colon rest with
      | .error fault => .error fault
      | .ok rest =>
        match hs : string rest with
        | .error fault => .error fault
        | .ok (value, rest) =>
          have := nextKey_length hn
          have := text_length hk
          have := colon_length hc
          have := string_length hs
          entries false (done.insert key value) rest
termination_by s.length

def textMap : Reader TextMap := fun s =>
  match skipBlanks s with
  | [] => .error (.onto .endInValue [])
  | '\x7b' :: rest =>
    match entries true .empty rest with
    | .error fault => .error fault
    | .ok (map, rest) => (closeObject rest).map (map, ·)
  | rest => .error (mismatch "a map" rest)

theorem closeList_length {s rest : List Char} (h : closeList s = .ok rest) :
    rest.length < s.length := by
  have hb := skipBlanks_length_le s
  unfold closeList at h
  split at h
  · cases h
  · rename_i e
    cases h
    rw [e, List.length_cons] at hb
    omega
  · split at h <;> cases h
  · cases h

theorem closeObject_length {s rest : List Char} (h : closeObject s = .ok rest) :
    rest.length < s.length := by
  have hb := skipBlanks_length_le s
  unfold closeObject at h
  split at h
  · cases h
  · rename_i e
    cases h
    rw [e, List.length_cons] at hb
    omega
  · cases h
  · cases h

theorem items_length_le {isFirst : Bool} {done values : List String} {s rest : List Char}
    (h : items isFirst done s = .ok (values, rest)) : rest.length ≤ s.length := by
  fun_induction items isFirst done s with
  | case1 => cases h
  | case2 => cases h; exact Nat.le_refl _
  | case3 => cases h
  | case4 _ _ _ _ hn _ _ hs h1 h2 ih =>
    have := ih h
    omega

theorem entries_length_le {isFirst : Bool} {done map : TextMap} {s rest : List Char}
    (h : entries isFirst done s = .ok (map, rest)) : rest.length ≤ s.length := by
  fun_induction entries isFirst done s with
  | case1 => cases h
  | case2 => cases h; exact Nat.le_refl _
  | case3 => cases h
  | case4 => cases h
  | case5 => cases h
  | case6 =>
    rename_i ih
    have := ih h
    omega

theorem map_pair_eq_ok {α : Type} {r : Except Fault (List Char)} {v w : α} {rest : List Char}
    (h : r.map (v, ·) = .ok (w, rest)) : r = .ok rest := by
  cases r with
  | error => cases h
  | ok => cases h; rfl

theorem consumes_texts : Consumes texts := by
  intro s v rest h
  have hb := skipBlanks_length_le s
  unfold texts at h
  split at h
  · cases h
  · rename_i e
    rw [e, List.length_cons] at hb
    split at h
    · cases h
    · rename_i hi
      have := items_length_le hi
      have := closeList_length (map_pair_eq_ok h)
      omega
  · cases h

theorem consumes_textMap : Consumes textMap := by
  intro s v rest h
  have hb := skipBlanks_length_le s
  unfold textMap at h
  split at h
  · cases h
  · rename_i e
    rw [e, List.length_cons] at hb
    split at h
    · cases h
    · rename_i hi
      have := entries_length_le hi
      have := closeObject_length (map_pair_eq_ok h)
      omega
  · cases h

end GuestNet.Json
