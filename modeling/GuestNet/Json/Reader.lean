import GuestNet.Json.Fault

/-! Readers of JSON text and what all of them share: blanks, words, and the steps from one item of
a list or one member of an object to the next. A reader takes a text and gives a value and what
follows it. -/
namespace GuestNet.Json

abbrev Reader (α : Type) := List Char → Except Fault (α × List Char)

/-- Only these four characters may stand between tokens. -/
def isBlank (c : Char) : Bool := c = ' ' || c = '\n' || c = '\t' || c = '\r'

def skipBlanks (s : List Char) : List Char := s.dropWhile isBlank

/-- Reads the letters of a word whose first one has been read. -/
def word : List Char → List Char → Except Fault (List Char)
  | [], s => .ok s
  | _ :: _, [] => .error (.before .endInValue [])
  | w :: ws, c :: s => if c = w then word ws s else .error (.onto .expectedWord (c :: s))

theorem skipBlanks_length_le (s : List Char) : (skipBlanks s).length ≤ s.length :=
  (List.dropWhile_sublist _).length_le

theorem word_length_le {ws s rest : List Char} (h : word ws s = .ok rest) :
    rest.length ≤ s.length := by
  fun_induction word ws s with
  | case1 s => cases h; exact Nat.le_refl _
  | case2 => cases h
  | case3 ws c s ih => exact Nat.le_succ_of_le (ih h)
  | case4 => cases h

/-- Goes to the next item of a list: `none` at the end of the list, which stays unread. -/
def nextItem (isFirst : Bool) (s : List Char) : Except Fault (Option (List Char)) :=
  match skipBlanks s with
  | [] => .error (.onto .endInList [])
  | ']' :: _ => .ok none
  | c :: rest =>
    if isFirst then .ok (some (c :: rest))
    else if c = ',' then
      match skipBlanks rest with
      | [] => .error (.onto .endInValue [])
      | ']' :: after => .error (.onto .trailingComma (']' :: after))
      | item => .ok (some item)
    else .error (.onto .expectedCommaOrEndOfList (c :: rest))

/-- Goes to the text of the next key, after its opening quote: `none` at the end of the object,
which stays unread. -/
def nextKey (isFirst : Bool) (s : List Char) : Except Fault (Option (List Char)) :=
  match skipBlanks s with
  | [] => .error (.onto .endInObject [])
  | '\x7d' :: _ => .ok none
  | c :: rest =>
    if isFirst then key (c :: rest)
    else if c = ',' then key (skipBlanks rest)
    else .error (.onto .expectedCommaOrEndOfObject (c :: rest))
where
  key : List Char → Except Fault (Option (List Char))
    | [] => .error (.onto .endInValue [])
    | '"' :: rest => .ok (some rest)
    | '\x7d' :: rest => .error (.onto .trailingComma ('\x7d' :: rest))
    | rest => .error (.onto .keyNotText rest)

/-- Reads the colon between a key and its value. -/
def colon (s : List Char) : Except Fault (List Char) :=
  match skipBlanks s with
  | [] => .error (.onto .endInObject [])
  | ':' :: rest => .ok rest
  | rest => .error (.onto .expectedColon rest)

theorem colon_length {s rest : List Char} (h : colon s = .ok rest) : rest.length < s.length := by
  have := skipBlanks_length_le s
  unfold colon at h
  split at h
  · cases h
  · rename_i e
    cases h
    simp only [e, List.length_cons] at this
    omega
  · cases h

def closeList (s : List Char) : Except Fault (List Char) :=
  match skipBlanks s with
  | [] => .error (.onto .endInList [])
  | ']' :: rest => .ok rest
  | ',' :: rest =>
    match skipBlanks rest with
    | ']' :: after => .error (.onto .trailingComma (']' :: after))
    | after => .error (.onto .trailingCharacters after)
  | rest => .error (.onto .trailingCharacters rest)

def closeObject (s : List Char) : Except Fault (List Char) :=
  match skipBlanks s with
  | [] => .error (.onto .endInObject [])
  | '\x7d' :: rest => .ok rest
  | ',' :: rest => .error (.onto .trailingComma (',' :: rest))
  | rest => .error (.onto .trailingCharacters rest)

/-- What an attempt to close a list leaves unread. -/
def afterList (s : List Char) : List Char :=
  match skipBlanks s with
  | ']' :: rest => rest
  | ',' :: rest => skipBlanks rest
  | rest => rest

/-- What an attempt to close an object leaves unread. -/
def afterObject (s : List Char) : List Char :=
  match skipBlanks s with
  | '\x7d' :: rest => rest
  | rest => rest

/-- Decodes a whole text: nothing but blanks may follow the value. -/
def decode {α : Type} (reader : Reader α) (text : String) : Except Error α :=
  match reader text.toList with
  | .error fault => .error (fault.inText text.toList)
  | .ok (value, rest) =>
    match skipBlanks rest with
    | [] => .ok value
    | c :: more => .error ((Fault.onto .trailingCharacters (c :: more)).inText text.toList)

end GuestNet.Json
