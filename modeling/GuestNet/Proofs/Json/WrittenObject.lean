import GuestNet.Json.Record
import GuestNet.Proofs.Json.Written

/-! What is written for an object reads back: as a map from text to text, and as a record, of which
every written member is known, comes once and reads back by itself. -/
namespace GuestNet

namespace TextMap

/-- An entry with the greatest key comes last. -/
theorem insertEntry_concat {key value : String} {entries : List (String × String)}
    (h : ∀ e ∈ entries, e.1 < key) :
    insertEntry key value entries = entries ++ [(key, value)] := by
  induction entries with
  | nil => rfl
  | cons e entries ih =>
    have he : e.1 < key := h e List.mem_cons_self
    rw [insertEntry, if_neg (String.lt_asymm he), if_neg (String.ne_of_lt he).symm,
      ih fun e' hm => h e' (List.mem_cons_of_mem e hm), List.cons_append]

theorem eq_of_entries {m n : TextMap} (h : m.entries = n.entries) : m = n := by
  cases m
  cases n
  cases h
  rfl

/-- The entries of a map can be put into it one after the other, from the first to the last. -/
theorem entries_insert {m done : TextMap} {e : String × String} {rest : List (String × String)}
    (hm : m.entries = done.entries ++ e :: rest) :
    m.entries = (done.insert e.1 e.2).entries ++ rest := by
  have hsorted := m.sorted
  rw [hm, List.pairwise_append] at hsorted
  have hlt : ∀ x ∈ done.entries, x.1 < e.1 := fun x hx =>
    hsorted.2.2 x hx e List.mem_cons_self
  have hinsert : (done.insert e.1 e.2).entries = done.entries ++ [e] := insertEntry_concat hlt
  rw [hinsert, hm, List.append_assoc, List.singleton_append]

end TextMap

namespace Json

/-- The members of an object, with a comma before each of them but the first. -/
def writeMembers (isFirst : Bool) : List (String × List Char) → List Char
  | [] => []
  | (name, value) :: rest =>
    (if isFirst then [] else [',']) ++ writeText name ++ ':' :: value ++ writeMembers false rest

theorem intercalate_members (first : List Char) (ms : List (String × List Char)) :
    [','].intercalate (first :: ms.map fun (name, value) => writeText name ++ ':' :: value) =
      first ++ writeMembers false ms := by
  induction ms generalizing first with
  | nil => simp [writeMembers]
  | cons m ms ih =>
    rw [List.map_cons, List.intercalate_cons_cons, ih]
    simp [writeMembers]

theorem writeObject_append (ms : List (String × List Char)) (rest : List Char) :
    writeObject ms ++ rest = '\x7b' :: (writeMembers true ms ++ '\x7d' :: rest) := by
  cases ms with
  | nil => rfl
  | cons m ms =>
    rw [writeObject, List.map_cons, intercalate_members]
    simp [writeMembers]

theorem follows_writeMembers (ms : List (String × List Char)) (rest : List Char) :
    Follows (writeMembers false ms ++ '\x7d' :: rest) := by
  cases ms with
  | nil => exact .endOfObject rest
  | cons m ms => exact .comma _

/-- The next key is found after its opening quote. -/
theorem nextKey_writeMembers (isFirst : Bool) (name : String) (value : List Char)
    (ms : List (String × List Char)) (rest : List Char) :
    nextKey isFirst (writeMembers isFirst ((name, value) :: ms) ++ rest) =
      .ok (some (name.toList.flatMap writeChar ++
        '"' :: ':' :: (value ++ (writeMembers false ms ++ rest)))) := by
  have hw : writeMembers isFirst ((name, value) :: ms) ++ rest =
      (if isFirst then [] else [',']) ++ '"' :: (name.toList.flatMap writeChar ++
        '"' :: ':' :: (value ++ (writeMembers false ms ++ rest))) := by
    simp [writeMembers, writeText]
  rw [hw]
  cases isFirst <;> rfl

theorem entries_of_nextKey {isFirst : Bool} {done : TextMap}
    {s keyText afterKey afterColon rest : List Char} {key value : String}
    (hn : nextKey isFirst s = .ok (some keyText)) (hk : text keyText = .ok (key, afterKey))
    (hc : colon afterKey = .ok afterColon) (hs : string afterColon = .ok (value, rest)) :
    entries isFirst done s = entries false (done.insert key value) rest := by
  rw [entries]
  grind

theorem entries_of_end (isFirst : Bool) (done : TextMap) (rest : List Char) :
    entries isFirst done ('\x7d' :: rest) = .ok (done, '\x7d' :: rest) := by
  have hn : nextKey isFirst ('\x7d' :: rest) = .ok none := rfl
  rw [entries]
  grind

theorem entries_written {m done : TextMap} {es : List (String × String)}
    (hm : m.entries = done.entries ++ es) (isFirst : Bool) (rest : List Char) :
    entries isFirst done
        (writeMembers isFirst (es.map fun e => (e.1, writeText e.2)) ++ '\x7d' :: rest) =
      .ok (m, '\x7d' :: rest) := by
  induction es generalizing done isFirst with
  | nil =>
    rw [List.append_nil] at hm
    rw [List.map_nil, writeMembers, List.nil_append, entries_of_end, TextMap.eq_of_entries hm]
  | cons e es ih =>
    rw [List.map_cons, entries_of_nextKey (nextKey_writeMembers ..) (text_written ..) rfl
      (string_written e.2 _ (follows_writeMembers ..))]
    exact ih (TextMap.entries_insert hm) false

theorem textMap_written (m : TextMap) : ReadsBack textMap (writeTextMap m) m := by
  intro rest _
  have hm : m.entries = TextMap.empty.entries ++ m.entries := (List.nil_append m.entries).symm
  have hread := entries_written hm true rest
  rw [writeTextMap, writeObject_append, textMap, skipBlanks_cons rfl]
  simp only [hread]
  rfl

/-- Members fill a draft one after the other: each is known, comes once and reads back. -/
inductive Fills {D : Type} (members : List (Member D)) :
    D → List (String × List Char) → D → Prop where
  | nil (d : D) : Fills members d [] d
  | cons {d d' d'' : D} {m : Member D} {name : String} {value : List Char}
      {rest : List (String × List Char)} : members.find? (·.name = name) = some m →
      m.isSet d = false → ReadsBack (m.read d) value d' → Fills members d' rest d'' →
        Fills members d ((name, value) :: rest) d''

variable {D α : Type}

theorem readMembers_of_nextKey {members : List (Member D)} {isFirst : Bool} {d d' : D}
    {s keyText afterKey rest : List Char} {key : String}
    (hn : nextKey isFirst s = .ok (some keyText)) (hk : text keyText = .ok (key, afterKey))
    (hm : Record.readMember members key d afterKey = .ok (d', rest)) :
    Record.readMembers members isFirst d s = Record.readMembers members false d' rest := by
  rw [Record.readMembers]
  grind

theorem readMembers_of_end (members : List (Member D)) (isFirst : Bool) (d : D)
    (rest : List Char) :
    Record.readMembers members isFirst d ('\x7d' :: rest) = .ok (d, '\x7d' :: rest) := by
  have hn : nextKey isFirst ('\x7d' :: rest) = .ok none := rfl
  rw [Record.readMembers]
  grind

theorem readMember_of_find? {members : List (Member D)} {m : Member D} {name : String} {d d' : D}
    {s rest : List Char} (hfind : members.find? (·.name = name) = some m)
    (hset : m.isSet d = false) (hread : m.read d s = .ok (d', rest)) :
    Record.readMember members name d (':' :: s) = .ok (d', rest) := by
  have hc : colon (':' :: s) = .ok s := rfl
  rw [Record.readMember, hfind]
  simp only [hset, Bool.false_eq_true, if_false, hc]
  exact hread

namespace Fills

variable {members : List (Member D)} {d d' d'' : D} {ms ms' : List (String × List Char)}

theorem append (h : Fills members d ms d') (h' : Fills members d' ms' d'') :
    Fills members d (ms ++ ms') d'' := by
  induction h with
  | nil => exact h'
  | cons hfind hset hread _ ih => exact .cons hfind hset hread (ih h')

theorem readMembers (h : Fills members d ms d') (isFirst : Bool) (rest : List Char) :
    Record.readMembers members isFirst d (writeMembers isFirst ms ++ '\x7d' :: rest) =
      .ok (d', '\x7d' :: rest) := by
  induction h generalizing isFirst with
  | nil d => exact readMembers_of_end members isFirst d rest
  | cons hfind hset hread _ ih =>
    rw [readMembers_of_nextKey (nextKey_writeMembers ..) (text_written ..)
      (readMember_of_find? hfind hset (hread _ (follows_writeMembers ..)))]
    exact ih false

/-- A member that was left open is filled with what reads back. -/
theorem single {α : Type} {name : String} {get : D → Option α} {set : D → α → D}
    {reader : Reader α} {hr : Consumes reader} {written : List Char} {v : α}
    (hfind : members.find? (·.name = name) = some (.of name get set reader hr))
    (hread : ReadsBack reader written v) (hget : get d = none) (hset : set d v = d') :
    Fills members d [(name, written)] d' := by
  subst hset
  refine .cons hfind ?_ (fun rest hf => ?_) (.nil _)
  · exact congrArg Option.isSome hget
  · exact congrArg (Except.map _) (hread rest hf)

variable (members) in
/-- A value that is absent is not written, and its member stays open. -/
theorem toList {β : Type} (x : Option β) (name : String) (write : β → List Char)
    (fill : Option (Option β) → D)
    (h : ∀ v, Fills members (fill none) [(name, write v)] (fill (some (some v)))) :
    Fills members (fill none) (x.toList.map fun v => (name, write v)) (fill (x.map some)) := by
  cases x with
  | none => exact .nil _
  | some v => exact h v

end Fills

theorem Record.read_written {r : Record D α} {d : D} {v : α} {ms : List (String × List Char)}
    (h : Fills r.members r.empty ms d) (hfinish : r.finish d = .ok v) :
    ReadsBack r.read (writeObject ms) v := by
  intro rest _
  have hobject : r.readObject (writeMembers true ms ++ '\x7d' :: rest) = .ok (v, rest) := by
    rw [readObject, h.readMembers]
    simp only [hfinish]
    rfl
  rw [writeObject_append, Record.read, skipBlanks_cons rfl]
  exact hobject

theorem decode_written {reader : Reader α} {written : List Char} {v : α}
    (h : ReadsBack reader written v) : decode reader (String.ofList written) = .ok v := by
  have hread := h [] .nothing
  rw [List.append_nil] at hread
  rw [decode, String.toList_ofList, hread]
  rfl

end Json
end GuestNet
