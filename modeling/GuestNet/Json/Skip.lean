import GuestNet.Json.Text
import GuestNet.Json.Number

/-! Passing over a value that nobody asked for, to any depth. -/
namespace GuestNet.Json

/-- What encloses the place of a reader. -/
inductive Enclosure where
  | list
  | object
deriving DecidableEq, Repr

/-- Passes over a text, a number or a word. -/
def skipScalar (s : List Char) : Except Fault (List Char) :=
  match s with
  | [] => .error (.onto .endInValue [])
  | '"' :: rest => skipText rest
  | 'n' :: rest => word ['u', 'l', 'l'] rest
  | 't' :: rest => word ['r', 'u', 'e'] rest
  | 'f' :: rest => word ['a', 'l', 's', 'e'] rest
  | '-' :: rest => skipNumber rest
  | c :: rest =>
    if c.isDigit then skipNumber (c :: rest) else .error (.onto .expectedValue (c :: rest))

/-- Passes over a key with its quotes and its colon. -/
def skipKey (s : List Char) : Except Fault (List Char) :=
  match skipBlanks s with
  | [] => .error (.onto .endInObject [])
  | '"' :: rest =>
    match skipText rest with
    | .error fault => .error fault
    | .ok rest => colon rest
  | rest => .error (.onto .keyNotText rest)

/-- Goes to the place of the next value in an enclosure. -/
def skipToValue : Enclosure → List Char → Except Fault (List Char)
  | .list, s => .ok s
  | .object, s => skipKey s

/-- Where a reader that passes over values stands. -/
inductive SkipState where
  /-- Before a value. -/
  | value
  /-- Right after the opening bracket of the innermost enclosure. -/
  | opened
  /-- After a value of the innermost enclosure. -/
  | item
deriving DecidableEq, Repr

def Enclosure.endOfText : Enclosure → Reason
  | .list => .endInList
  | .object => .endInObject

def Enclosure.expectedCommaOrEnd : Enclosure → Reason
  | .list => .expectedCommaOrEndOfList
  | .object => .expectedCommaOrEndOfObject

def Enclosure.closing : Enclosure → Char
  | .list => ']'
  | .object => '\x7d'

/-- One step of the passing over: the new state, the enclosures and the rest, or the end. -/
inductive SkipStep where
  | done (rest : List Char)
  | more (state : SkipState) (enclosures : List Enclosure) (rest : List Char)

def skipStep (state : SkipState) (enclosures : List Enclosure) (s : List Char) :
    Except Fault SkipStep :=
  match state, enclosures with
  | .value, _ =>
    match skipBlanks s with
    | '[' :: rest => .ok (.more .opened (.list :: enclosures) rest)
    | '\x7b' :: rest => .ok (.more .opened (.object :: enclosures) rest)
    | rest => (skipScalar rest).map (.more .item enclosures)
  | _, [] => .ok (.done s)
  | state, e :: outer =>
    match skipBlanks s with
    | [] => .error (.onto e.endOfText [])
    | c :: rest =>
      if c = e.closing then .ok (.more .item outer rest)
      else if state = .opened then (skipToValue e (c :: rest)).map (.more .value enclosures)
      else if c = ',' then (skipToValue e rest).map (.more .value enclosures)
      else .error (.onto e.expectedCommaOrEnd (c :: rest))

theorem skipScalar_length {s rest : List Char} (h : skipScalar s = .ok rest) :
    rest.length < s.length := by
  unfold skipScalar at h
  split at h
  · cases h
  · have := skipText_length h
    simp only [List.length_cons]
    omega
  · have := word_length_le h
    simp only [List.length_cons]
    omega
  · have := word_length_le h
    simp only [List.length_cons]
    omega
  · have := word_length_le h
    simp only [List.length_cons]
    omega
  · have := skipNumber_length h
    simp only [List.length_cons]
    omega
  · split at h
    · exact skipNumber_length h
    · cases h

theorem skipKey_length {s rest : List Char} (h : skipKey s = .ok rest) :
    rest.length < s.length := by
  have hb := skipBlanks_length_le s
  unfold skipKey at h
  split at h
  · cases h
  · rename_i r e
    rw [e, List.length_cons] at hb
    split at h
    · cases h
    · rename_i r' hr
      have := skipText_length hr
      have := colon_length h
      omega
  · cases h

theorem skipToValue_length_le {e : Enclosure} {s rest : List Char}
    (h : skipToValue e s = .ok rest) : rest.length ≤ s.length := by
  cases e with
  | list => cases h; exact Nat.le_refl _
  | object => exact Nat.le_of_lt (skipKey_length h)

/-- What is left to do: twice the unread characters, and one more right after a bracket. -/
def skipMeasure (state : SkipState) (s : List Char) : Nat :=
  2 * s.length + if state = .opened then 1 else 0

theorem skipStep_measure {state state' : SkipState} {es es' : List Enclosure} {s s' : List Char}
    (h : skipStep state es s = .ok (.more state' es' s')) :
    skipMeasure state' s' < skipMeasure state s := by
  have hb := skipBlanks_length_le s
  have mapped {r : Except Fault (List Char)} {st : SkipState} {xs : List Enclosure}
      (h : r.map (SkipStep.more st xs) = .ok (.more state' es' s')) :
      r = .ok s' ∧ st = state' := by
    cases r with
    | error => cases h
    | ok => cases h; exact ⟨rfl, rfl⟩
  unfold skipStep at h
  unfold skipMeasure
  split at h
  · split at h
    · rename_i e
      cases h
      rw [e, List.length_cons] at hb
      simp only [if_pos, reduceCtorEq, if_false]
      omega
    · rename_i e
      cases h
      rw [e, List.length_cons] at hb
      simp only [if_pos, reduceCtorEq, if_false]
      omega
    · obtain ⟨hr, rfl⟩ := mapped h
      have := skipScalar_length hr
      simp only [reduceCtorEq, if_false]
      omega
  · cases h
  · split at h
    · cases h
    · rename_i c r e
      rw [e, List.length_cons] at hb
      split at h
      · cases h
        simp only [reduceCtorEq, if_false]
        omega
      · split at h
        · rename_i ho
          obtain ⟨hr, rfl⟩ := mapped h
          have := skipToValue_length_le hr
          simp only [List.length_cons] at this
          simp only [ho, reduceCtorEq, if_true, if_false]
          omega
        · split at h
          · obtain ⟨hr, rfl⟩ := mapped h
            have := skipToValue_length_le hr
            simp only [reduceCtorEq, if_false]
            omega
          · cases h

/-- Steps until the value is passed. -/
def skipFrom (state : SkipState) (enclosures : List Enclosure) (s : List Char) :
    Except Fault (List Char) :=
  match h : skipStep state enclosures s with
  | .error fault => .error fault
  | .ok (.done rest) => .ok rest
  | .ok (.more state' enclosures' s') =>
    have := skipStep_measure h
    skipFrom state' enclosures' s'
termination_by skipMeasure state s

/-- Passes over one value. -/
def skipValue (s : List Char) : Except Fault (List Char) := skipFrom .value [] s

end GuestNet.Json
