import GuestNet.Json.Collection

/-! Records: an object with known members in any order, whose other members are passed over, or a
list of the members in their order, whose tail may be missing. -/
namespace GuestNet.Json

/-- A known member of a record, as it is put into a draft of type `D`. -/
structure Member (D : Type) where
  name : String
  isSet : D → Bool
  read : D → Reader D
  consumes : ∀ d, Consumes (read d)

/-- A member that a reader gives and that `set` puts into the draft. -/
def Member.of {D α : Type} (name : String) (get : D → Option α) (set : D → α → D)
    (reader : Reader α) (h : Consumes reader) : Member D where
  name := name
  isSet d := (get d).isSome
  read d s := (reader s).map fun (value, rest) => (set d value, rest)
  consumes d s v rest hr := by
    cases e : reader s with
    | error => simp only [e, Except.map, reduceCtorEq] at hr
    | ok p =>
      simp only [e, Except.map, Except.ok.injEq, Prod.mk.injEq] at hr
      exact hr.2 ▸ h _ _ _ e

structure Record (D α : Type) where
  name : String
  members : List (Member D)
  empty : D
  /-- The finished record, or the index of the first member that it cannot do without. -/
  finish : D → Except Nat α

namespace Record

variable {D α : Type}

/-- What a reader of the record expects. -/
def phrase (r : Record D α) : String := "struct " ++ r.name

def shortList (r : Record D α) (length : Nat) : Reason :=
  .invalidLength length (r.phrase ++ " with " ++ toString r.members.length ++ " elements")

def missing (r : Record D α) (index : Nat) : Reason :=
  .missingField ((r.members[index]?).elim "" (·.name))

/-- Reads the value of a member that may be known, from before the colon. A known member comes
once; the place of a second one is where an attempt to close the object ends. -/
def readMember (members : List (Member D)) (key : String) (d : D) (s : List Char) :
    Except Fault (D × List Char) :=
  match members.find? (·.name = key) with
  | none =>
    match colon s with
    | .error fault => .error fault
    | .ok rest => (skipValue rest).map (d, ·)
  | some m =>
    if m.isSet d then .error (.before (.duplicateField key) (afterObject s))
    else
      match colon s with
      | .error fault => .error fault
      | .ok rest => m.read d rest

theorem skipFrom_length_le {state : SkipState} {es : List Enclosure} {s rest : List Char}
    (h : skipFrom state es s = .ok rest) : rest.length ≤ s.length := by
  have step {state state' : SkipState} {es es' : List Enclosure} {s s' : List Char}
      (h : skipStep state es s = .ok (.more state' es' s')) : s'.length ≤ s.length := by
    have := skipStep_measure h
    unfold skipMeasure at this
    split at this <;> split at this <;> omega
  fun_induction skipFrom state es s with
  | case1 => cases h
  | case2 state es s r hd =>
    cases h
    unfold skipStep at hd
    have no {r : Except Fault (List Char)} {st : SkipState} {xs : List Enclosure}
        {t : List Char} (h : r.map (SkipStep.more st xs) = .ok (.done t)) : False := by
      cases r <;> cases h
    split at hd
    · split at hd
      · cases hd
      · cases hd
      · exact (no hd).elim
    · cases hd
      exact Nat.le_refl _
    · split at hd
      · cases hd
      · split at hd
        · cases hd
        · split at hd
          · exact (no hd).elim
          · split at hd
            · exact (no hd).elim
            · cases hd
  | case3 state es s st xs t hs _ ih => exact Nat.le_trans (ih h) (step hs)

theorem readMember_length_le {members : List (Member D)} {key : String} {d d' : D}
    {s rest : List Char} (h : readMember members key d s = .ok (d', rest)) :
    rest.length ≤ s.length := by
  unfold readMember at h
  split at h
  · split at h
    · cases h
    · rename_i hc
      have := colon_length hc
      have := skipFrom_length_le (map_pair_eq_ok h)
      omega
  · split at h
    · cases h
    · split at h
      · cases h
      · rename_i hc
        have := colon_length hc
        have := Member.consumes _ _ _ _ _ h
        omega

/-- Reads the members of an object after its opening brace. -/
def readMembers (members : List (Member D)) (isFirst : Bool) (d : D) (s : List Char) :
    Except Fault (D × List Char) :=
  match hn : nextKey isFirst s with
  | .error fault => .error fault
  | .ok none => .ok (d, s)
  | .ok (some keyText) =>
    match hk : text keyText with
    | .error fault => .error fault
    | .ok (key, rest) =>
      match hm : readMember members key d rest with
      | .error fault => .error fault
      | .ok (d', rest) =>
        have := nextKey_length hn
        have := text_length hk
        have := readMember_length_le hm
        readMembers members false d' rest
termination_by s.length

/-- Reads the members of a list after its opening bracket, in their order. -/
def readItems : List (Member D) → Bool → D → List Char → Except Fault (D × List Char)
  | [], _, d, s => .ok (d, s)
  | m :: rest, isFirst, d, s =>
    match nextItem isFirst s with
    | .error fault => .error fault
    | .ok none => .ok (d, s)
    | .ok (some item) =>
      match m.read d item with
      | .error fault => .error fault
      | .ok (d, s) => readItems rest false d s

def readObject (r : Record D α) : Reader α := fun s =>
  match readMembers r.members true r.empty s with
  | .error fault => .error fault
  | .ok (d, s) =>
    match r.finish d with
    | .error index => .error (.before (r.missing index) (afterObject s))
    | .ok value => (closeObject s).map (value, ·)

def readList (r : Record D α) : Reader α := fun s =>
  match readItems r.members true r.empty s with
  | .error fault => .error fault
  | .ok (d, s) =>
    match r.finish d with
    | .error index => .error (.before (r.shortList index) (afterList s))
    | .ok value => (closeList s).map (value, ·)

def read (r : Record D α) : Reader α := fun s =>
  match skipBlanks s with
  | [] => .error (.onto .endInValue [])
  | '[' :: rest => r.readList rest
  | '\x7b' :: rest => r.readObject rest
  | rest => .error (mismatch r.phrase rest)

end Record
end GuestNet.Json
