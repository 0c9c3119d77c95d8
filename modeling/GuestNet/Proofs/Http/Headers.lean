import GuestNet.Http.Request

/-! Headers by their values. What every operation does to the values under a name, and what the
headers of a guest's options come to. -/
namespace GuestNet.Http

namespace Headers

/-- All values under a name in lower case. -/
def values (h : Headers) (name : String) : List Bytes :=
  (h.entries.filter fun e => e.1 = name).map Prod.snd

variable {h : Headers} {name : String} {value : Bytes} {key : String}

@[simp] theorem values_empty (key : String) : empty.values key = [] := rfl

theorem values_append : (h.append name value).values key =
    h.values key ++ if lowerCase name = key then [value] else [] := by
  rw [values, append, List.filter_append, List.map_append]
  by_cases hk : lowerCase name = key <;> simp [hk, values]

theorem values_erase :
    (h.erase name).values key = if lowerCase name = key then [] else h.values key := by
  rw [values, erase, List.filter_filter]
  split
  · rename_i hk
    rw [List.map_eq_nil_iff, List.filter_eq_nil_iff]
    intro e _
    simp [hk]
  · rename_i hk
    rw [values]
    congr 1
    apply List.filter_congr
    intro e _
    by_cases he : e.1 = key
    · simp [he, Ne.symm hk]
    · simp [he]

theorem values_insert :
    (h.insert name value).values key = if lowerCase name = key then [value] else h.values key := by
  rw [insert, values_append, values_erase]
  split
  · rfl
  · exact List.append_nil _

theorem get?_eq_head? : h.get? name = (h.values (lowerCase name)).head? := by
  rw [get?, values]
  induction h.entries with
  | nil => rfl
  | cons e rest ih =>
    rw [List.lookup_cons, ih, List.filter_cons]
    by_cases he : lowerCase name = e.1
    · simp [he]
    · rw [beq_false_of_ne he, if_neg (by simpa using Ne.symm he)]

theorem values_insertMissing : (h.insertMissing name value).values key =
    if lowerCase name = key ∧ h.values key = [] then [value] else h.values key := by
  rw [insertMissing, contains, get?_eq_head?]
  by_cases hk : lowerCase name = key
  · subst hk
    cases hv : h.values (lowerCase name) with
    | nil => simp [values_append, hv]
    | cons v rest => simp [hv]
  · simp only [hk, false_and, if_false]
    split
    · rfl
    · rw [values_append, if_neg hk, List.append_nil]

end Headers

/-- The value that counts of those that a map gives a header under names that differ in letter case
only. -/
def givenValue? (entries : List (String × String)) (key : String) : Option String :=
  ((entries.filter fun e => lowerCase e.1 = key).getLast?).map Prod.snd

theorem givenValue?_cons (name value : String) (rest : List (String × String)) (key : String) :
    givenValue? ((name, value) :: rest) key =
      (givenValue? rest key).or (if lowerCase name = key then some value else none) := by
  rw [givenValue?, givenValue?, List.filter_cons]
  by_cases hk : lowerCase name = key
  · simp only [hk, decide_true, if_true, List.getLast?_cons]
    cases (rest.filter fun e => lowerCase e.1 = key).getLast? <;> rfl
  · simp [hk]

theorem readHeader_eq_ok {name value : String} {entry : String × Bytes}
    (h : readHeader name value = .ok entry) : entry = (name, .ofText value) := by
  rw [readHeader] at h
  split at h
  · split at h
    · cases h
      rfl
    · cases h
  · cases h

theorem values_addHeaders {room : Nat} {h h' : Headers} {entries : List (String × String)}
    (ha : addHeaders room h entries = some (.ok h')) (key : String) :
    h'.values key = (givenValue? entries key).elim (h.values key) ([.ofText ·]) := by
  induction entries generalizing room h with
  | nil =>
    cases ha
    rfl
  | cons e rest ih =>
    obtain ⟨name, value⟩ := e
    rw [addHeaders] at ha
    split at ha
    · cases ha
    · rename_i name' value' hr
      cases readHeader_eq_ok hr
      split at ha
      · cases ha
      · rw [ih ha, givenValue?_cons, Headers.values_insert]
        cases givenValue? rest key with
        | some v => rfl
        | none => split <;> rfl

end GuestNet.Http
