import GuestNet.Proofs.Json.Settled
import GuestNet.Proofs.Json.WrittenObject

/-! Lists and objects are read item by item and member by member, wherever their blanks are. What a
loop over the members makes of an object is a fold over them by their names, which fails at a key
without a name. So the readers of lists of texts and of maps are settled. -/
namespace GuestNet.Json

variable {D : Type}

/-! ### From one item to the next -/

namespace IsSeparator

variable {isFirst : Bool} {sep : List Char}

theorem nextItem (h : IsSeparator isFirst sep) {c : Char} (hc : startsValue c = true)
    (rest : List Char) : nextItem isFirst (sep ++ c :: rest) = .ok (some (c :: rest)) := by
  have hskip {b : List Char} (hb : AreBlanks b) : skipBlanks (b ++ c :: rest) = c :: rest := by
    rw [skipBlanks_append hb, skipBlanks_cons (isBlank_of_startsValue hc)]
  have hend : c ≠ ']' := ne_of_startsValue hc rfl
  cases h with
  | first hb => simp [Json.nextItem, hskip hb]
  | @comma b b' hb hb' =>
    have hcomma : skipBlanks (b ++ ',' :: (b' ++ c :: rest)) = ',' :: (b' ++ c :: rest) := by
      rw [skipBlanks_append hb, skipBlanks_cons rfl]
    simp [Json.nextItem, hcomma, hskip hb', hend]

theorem nextKey (h : IsSeparator isFirst sep) (rest : List Char) :
    nextKey isFirst (sep ++ '"' :: rest) = .ok (some rest) := by
  have hskip {b : List Char} (hb : AreBlanks b) : skipBlanks (b ++ '"' :: rest) = '"' :: rest := by
    rw [skipBlanks_append hb, skipBlanks_cons rfl]
  cases h with
  | first hb =>
    rw [Json.nextKey, hskip hb]
    rfl
  | comma hb hb' =>
    rw [List.append_assoc, List.cons_append, Json.nextKey, skipBlanks_append hb,
      skipBlanks_cons rfl]
    simp [hskip hb', Json.nextKey.key]

end IsSeparator

theorem nextItem_end {b : List Char} (hb : AreBlanks b) (isFirst : Bool) (rest : List Char) :
    nextItem isFirst (b ++ ']' :: rest) = .ok none := by
  rw [nextItem, skipBlanks_append hb]
  rfl

theorem nextKey_end {b : List Char} (hb : AreBlanks b) (isFirst : Bool) (rest : List Char) :
    nextKey isFirst (b ++ '\x7d' :: rest) = .ok none := by
  rw [nextKey, skipBlanks_append hb]
  rfl

theorem closeList_append {b : List Char} (hb : AreBlanks b) (rest : List Char) :
    closeList (b ++ ']' :: rest) = .ok rest := by
  rw [closeList, skipBlanks_append hb]
  rfl

theorem closeObject_append {b : List Char} (hb : AreBlanks b) (rest : List Char) :
    closeObject (b ++ '\x7d' :: rest) = .ok rest := by
  rw [closeObject, skipBlanks_append hb]
  rfl

/-! ### Lists of texts -/

theorem items_of_end {isFirst : Bool} {s : List Char} (h : nextItem isFirst s = .ok none)
    (done : List String) : items isFirst done s = .ok (done.reverse, s) := by
  rw [items]
  grind

theorem toOption_items {isFirst : Bool} {s item : List Char}
    (h : nextItem isFirst s = .ok (some item)) (done : List String) :
    (items isFirst done s).toOption = (string item).toOption.bind fun (v, rest) =>
      (items false (v :: done) rest).toOption := by
  rw [items]
  cases hs : string item <;> grind [Except.toOption]

/-- The blanks before the end of the list are left to what closes it. -/
theorem items_written {ts : List Tree} {isFirst : Bool} {s : List Char}
    (h : WritesItems isFirst ts s) (done : List String) (rest : List Char) :
    ∃ b, AreBlanks b ∧ (items isFirst done (s ++ ']' :: rest)).toOption =
      (ts.mapM (value? string)).map fun vs => (done.reverse ++ vs, b ++ ']' :: rest) := by
  induction ts generalizing isFirst s done with
  | nil =>
    cases h with
    | nil hb =>
      refine ⟨s, hb, ?_⟩
      rw [items_of_end (nextItem_end hb isFirst rest), List.mapM_nil]
      simp [Except.toOption]
  | cons t ts ih =>
    cases h with
    | @cons _ _ _ sep s s' hsep ht hts =>
      have hread := settled_string t areBlanks_nil ht (hts.mayFollow rest)
      rw [List.nil_append] at hread
      obtain ⟨c, s, rfl, hc⟩ := ht.exists_cons
      have hnext := hsep.nextItem hc (s ++ (s' ++ ']' :: rest))
      rw [List.append_assoc, List.append_assoc, List.cons_append, toOption_items hnext,
        ← List.cons_append, hread, List.mapM_cons]
      cases value? string t with
      | none => exact ⟨[], areBlanks_nil, rfl⟩
      | some v =>
        obtain ⟨b, hb, hitems⟩ := ih hts (v :: done)
        refine ⟨b, hb, ?_⟩
        simp only [Option.map_some, Option.bind_some, hitems, List.reverse_cons]
        cases ts.mapM (value? string) <;> simp

theorem toOption_texts (s : List Char) :
    (texts ('[' :: s)).toOption = (items true [] s).toOption.bind fun (vs, rest) =>
      (closeList rest).toOption.map (vs, ·) := by
  rw [texts, skipBlanks_cons rfl]
  simp only
  rcases items true [] s with e | ⟨vs, rest⟩
  · rfl
  · exact toOption_map _ _

theorem settled_texts : Settled texts := by
  apply Settled.of_kinds
  · intro s
    rw [texts, skipBlanks_skipBlanks]
    rfl
  · intro token htoken
    obtain ⟨c, s, rfl, hc, hlist, -⟩ := htoken.exists_cons
    refine ⟨none, fun rest _ => ?_⟩
    simp [texts, skipBlanks_cons (isBlank_of_startsValue hc), hlist, Except.toOption]
  · intro ts
    refine ⟨ts.mapM (value? string), fun s rest hs => ?_⟩
    obtain ⟨b, hb, hitems⟩ := items_written hs [] rest
    rw [toOption_texts, hitems]
    cases ts.mapM (value? string) with
    | none => rfl
    | some vs => simp [closeList_append hb, Except.toOption]
  · exact fun ms => ⟨none, fun s rest _ => rfl⟩

theorem value?_texts_nil : value? texts (.list []) = some [] := by
  have hnext : nextItem true [']'] = .ok none := rfl
  have hread : texts ['[', ']'] = .ok ([], []) := by
    rw [texts, skipBlanks_cons rfl]
    simp only [items_of_end hnext]
    rfl
  exact settled_texts.value?_eq (.list (.nil areBlanks_nil)) hread

/-! ### Members -/

/-- A loop over the members of an object, and what it does from after a key, with its name. -/
structure IsLoop (loop : Bool → D → Reader D) (step : String → D → Reader D) : Prop where
  atEnd : ∀ {isFirst : Bool} {d : D} {s : List Char}, nextKey isFirst s = .ok none →
    loop isFirst d s = .ok (d, s)
  atKey : ∀ {isFirst : Bool} {d : D} {s key : List Char}, nextKey isFirst s = .ok (some key) →
    (loop isFirst d s).toOption = (text key).toOption.bind fun (name, rest) =>
      (step name d rest).toOption.bind fun (d', rest) => (loop false d' rest).toOption

/-- The members of an object put into a draft by their names, one after the other. -/
noncomputable def load (enter : String → Tree → D → Option D) (d : D)
    (ms : List (List Char × Tree)) : Option D :=
  ms.foldlM (fun d m => (keyName? m.1).bind fun name => enter name m.2 d) d

theorem load_cons (enter : String → Tree → D → Option D) (d : D) (key : List Char) (t : Tree)
    (ms : List (List Char × Tree)) : load enter d ((key, t) :: ms) =
      ((keyName? key).bind fun name => enter name t d).bind fun d' => load enter d' ms := by
  rw [load, List.foldlM_cons]
  rfl

/-- What a step makes of the value after its colon depends on the tree that is written there. -/
def Enters (step : String → D → Reader D) (enter : String → Tree → D → Option D) : Prop :=
  ∀ (name : String) (d : D) ⦃t : Tree⦄ ⦃b b' s rest : List Char⦄, AreBlanks b → AreBlanks b' →
    Writes t s → MayFollow rest →
      (step name d (b ++ ':' :: (b' ++ (s ++ rest)))).toOption = (enter name t d).map (·, rest)

theorem IsLoop.written {loop : Bool → D → Reader D} {step : String → D → Reader D}
    {enter : String → Tree → D → Option D} (hloop : IsLoop loop step) (henter : Enters step enter)
    {ms : List (List Char × Tree)} {isFirst : Bool} {s : List Char}
    (h : WritesMembers isFirst ms s) (d : D) (rest : List Char) :
    ∃ b, AreBlanks b ∧ (loop isFirst d (s ++ '\x7d' :: rest)).toOption =
      (load enter d ms).map (·, b ++ '\x7d' :: rest) := by
  induction ms generalizing isFirst s d with
  | nil =>
    cases h with
    | nil hb =>
      refine ⟨s, hb, ?_⟩
      rw [hloop.atEnd (nextKey_end hb isFirst rest)]
      rfl
  | cons m ms ih =>
    cases h with
    | @cons _ key t _ sep b b' s s' hsep hkey hb hb' ht hms =>
      have hnext := hsep.nextKey
        (key ++ '"' :: (b ++ ':' :: (b' ++ (s ++ (s' ++ '\x7d' :: rest)))))
      have hs : sep ++ '"' :: (key ++ '"' :: (b ++ ':' :: (b' ++ (s ++ s')))) ++ '\x7d' :: rest =
          sep ++ '"' :: (key ++ '"' :: (b ++ ':' :: (b' ++ (s ++ (s' ++ '\x7d' :: rest))))) := by
        simp
      rw [hs, hloop.atKey hnext, hkey.toOption_text, load_cons]
      cases keyName? key with
      | none => exact ⟨[], areBlanks_nil, rfl⟩
      | some name =>
        have hstep := henter name d hb hb' ht (hms.mayFollow rest)
        simp only [Option.map_some, Option.bind_some, hstep]
        cases enter name t d with
        | none => exact ⟨[], areBlanks_nil, rfl⟩
        | some d' => exact ih hms d'

/-! ### Maps -/

/-- Reads an entry from before its colon. -/
def readEntry (key : String) (done : TextMap) : Reader TextMap := fun s =>
  match colon s with
  | .error fault => .error fault
  | .ok rest => (string rest).map fun (value, rest) => (done.insert key value, rest)

theorem isLoop_entries : IsLoop entries readEntry where
  atEnd h := by
    rw [entries]
    grind
  atKey {isFirst d s keyText} h := by
    rw [entries]
    cases hk : text keyText with
    | error e => grind [Except.toOption]
    | ok p =>
      cases hc : colon p.2 with
      | error e => grind [readEntry, Except.toOption]
      | ok afterColon =>
        cases hs : string afterColon <;> grind [readEntry, Except.toOption, Except.map]

/-- A later entry with the same key takes the place of an earlier one. -/
noncomputable def enterEntry (key : String) (t : Tree) (done : TextMap) : Option TextMap :=
  (value? string t).map (done.insert key)

theorem enters_readEntry : Enters readEntry enterEntry := by
  intro key done t b b' s rest hb hb' ht hr
  rw [readEntry, colon_append hb]
  simp only
  rw [toOption_map, settled_string t hb' ht hr, enterEntry, Option.map_map, Option.map_map]
  rfl

theorem toOption_textMap (s : List Char) :
    (textMap ('\x7b' :: s)).toOption = (entries true .empty s).toOption.bind fun (m, rest) =>
      (closeObject rest).toOption.map (m, ·) := by
  rw [textMap, skipBlanks_cons rfl]
  simp only
  rcases entries true .empty s with e | ⟨m, rest⟩
  · rfl
  · exact toOption_map _ _

theorem settled_textMap : Settled textMap := by
  apply Settled.of_kinds
  · intro s
    rw [textMap, skipBlanks_skipBlanks]
    rfl
  · intro token htoken
    obtain ⟨c, s, rfl, hc, -, hobject⟩ := htoken.exists_cons
    refine ⟨none, fun rest _ => ?_⟩
    simp [textMap, skipBlanks_cons (isBlank_of_startsValue hc), hobject, Except.toOption]
  · exact fun ts => ⟨none, fun s rest _ => rfl⟩
  · intro ms
    refine ⟨load enterEntry .empty ms, fun s rest hs => ?_⟩
    obtain ⟨b, hb, hentries⟩ := isLoop_entries.written enters_readEntry hs .empty rest
    rw [toOption_textMap, hentries]
    cases load enterEntry .empty ms with
    | none => rfl
    | some m => simp [closeObject_append hb, Except.toOption]

theorem value?_textMap_nil : value? textMap (.object []) = some .empty :=
  settled_textMap.value?_eq (.object (.nil areBlanks_nil)) (textMap_written .empty [] .nothing)

end GuestNet.Json
