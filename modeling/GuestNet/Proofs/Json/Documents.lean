import GuestNet.Proofs.Json.Enclosures
import Mathlib.Data.List.Pairwise

/-! What a document says. A record decodes from an object to what its known members make of their
trees, and members of a lawful record do not meet in the draft. So neither the order of the members
matters, nor a member with another name, nor one that says what is so without it. -/
namespace GuestNet.Json

variable {D α : Type} {members : List (Member D)}

/-! ### Members -/

/-- A member's reader is settled, and marks the member as set. -/
structure Member.IsLawful (m : Member D) : Prop where
  settled : ∀ d, Settled (m.read d)
  isSet : ∀ {t : Tree} {d d' : D}, value? (m.read d) t = some d' → m.isSet d' = true

/-- Two members do not see each other, and can be read in either order. -/
structure Member.Apart (m m' : Member D) : Prop where
  isSet_left : ∀ {t : Tree} {d d' : D}, value? (m'.read d) t = some d' → m.isSet d' = m.isSet d
  isSet_right : ∀ {t : Tree} {d d' : D}, value? (m.read d) t = some d' → m'.isSet d' = m'.isSet d
  comm : ∀ (t t' : Tree) (d : D),
    ((value? (m.read d) t).bind fun d' => value? (m'.read d') t') =
      (value? (m'.read d) t').bind fun d' => value? (m.read d') t

theorem Member.Apart.symm {m m' : Member D} (h : m.Apart m') : m'.Apart m :=
  ⟨h.isSet_right, h.isSet_left, fun t t' d => (h.comm t' t d).symm⟩

section Fields

variable {β : Type} {name name' : String} {get : D → Option α} {set : D → α → D}
  {get' : D → Option β} {set' : D → β → D} {reader : Reader α} {reader' : Reader β}
  {h : Consumes reader} {h' : Consumes reader'}

theorem value?_of (d : D) (t : Tree) :
    value? ((Member.of name get set reader h).read d) t = (value? reader t).map (set d) :=
  value?_map reader (set d) t

theorem Member.eq_none_of_isSet {d : D}
    (hunset : (Member.of name get set reader h).isSet d = false) : get d = none :=
  Option.not_isSome_iff_eq_none.mp (ne_true_of_eq_false hunset)

theorem Member.IsLawful.of (hr : Settled reader) (get_set : ∀ d v, get (set d v) = some v) :
    (Member.of name get set reader h).IsLawful where
  settled d := hr.map (set d)
  isSet {t d d'} hv := by
    rw [value?_of] at hv
    obtain ⟨v, -, rfl⟩ := Option.map_eq_some_iff.mp hv
    exact congrArg Option.isSome (get_set d v)

theorem Member.Apart.of (get_set : ∀ d v, get (set' d v) = get d)
    (get_set' : ∀ d v, get' (set d v) = get' d)
    (set_comm : ∀ d v w, set' (set d v) w = set (set' d w) v) :
    (Member.of name get set reader h).Apart (.of name' get' set' reader' h') where
  isSet_left {t d d'} hv := by
    rw [value?_of] at hv
    obtain ⟨v, -, rfl⟩ := Option.map_eq_some_iff.mp hv
    exact congrArg Option.isSome (get_set d v)
  isSet_right {t d d'} hv := by
    rw [value?_of] at hv
    obtain ⟨v, -, rfl⟩ := Option.map_eq_some_iff.mp hv
    exact congrArg Option.isSome (get_set' d v)
  comm t t' d := by
    simp only [value?_of]
    cases value? reader t with
    | none => cases value? reader' t' <;> rfl
    | some v =>
      cases value? reader' t' with
      | none => rfl
      | some w => exact congrArg some (set_comm d v w)

end Fields

/-! ### Loading -/

/-- A member with an unknown name changes nothing, and a known one comes once. -/
noncomputable def enterMember (members : List (Member D)) (name : String) (t : Tree) (d : D) :
    Option D :=
  match members.find? (·.name = name) with
  | none => some d
  | some m => if m.isSet d then none else value? (m.read d) t

theorem isLoop_readMembers (members : List (Member D)) :
    IsLoop (Record.readMembers members) (Record.readMember members) where
  atEnd h := by
    rw [Record.readMembers]
    grind
  atKey {isFirst d s keyText} h := by
    rw [Record.readMembers]
    cases hk : text keyText with
    | error e => grind [Except.toOption]
    | ok p => cases hm : Record.readMember members p.1 d p.2 <;> grind [Except.toOption]

theorem enters_readMember (h : ∀ m ∈ members, m.IsLawful) :
    Enters (Record.readMember members) (enterMember members) := by
  intro name d t b b' s rest hb hb' ht hr
  rw [Record.readMember, enterMember]
  cases hfind : members.find? (·.name = name) with
  | none =>
    simp only [colon_append hb, ht.skipValue hb' hr]
    rfl
  | some m =>
    simp only
    split
    · rfl
    · rw [colon_append hb]
      exact (h m (List.mem_of_find?_eq_some hfind)).settled d t hb' ht hr

theorem load_append (enter : String → Tree → D → Option D) (d : D)
    (ms ms' : List (List Char × Tree)) :
    load enter d (ms ++ ms') = (load enter d ms).bind fun d' => load enter d' ms' := by
  rw [load, List.foldlM_append]
  rfl

/-- Members whose order does not matter one by one can come in any order. -/
theorem load_perm {enter : String → Tree → D → Option D}
    (hcomm : ∀ name name' t t' d,
      (enter name t d).bind (enter name' t') = (enter name' t' d).bind (enter name t))
    {ms ms' : List (List Char × Tree)} (h : ms.Perm ms') (d : D) :
    load enter d ms = load enter d ms' := by
  induction h generalizing d with
  | nil => rfl
  | cons m _ ih =>
    obtain ⟨key, t⟩ := m
    simp only [load_cons, ih]
  | swap m m' ms =>
    obtain ⟨key, t⟩ := m
    obtain ⟨key', t'⟩ := m'
    simp only [load_cons]
    cases keyName? key with
    | none => cases keyName? key' <;> simp
    | some name =>
      cases keyName? key' with
      | none => simp
      | some name' =>
        have hswap := congrArg (Option.bind · fun d => load enter d ms)
          (hcomm name' name t' t d)
        simpa only [Option.bind_some, Option.bind_assoc] using hswap
  | trans _ _ ih ih' => exact (ih d).trans (ih' d)

theorem load_unknown {enter : String → Tree → D → Option D} {key : List Char} {name : String}
    (hkey : Spells key name.toList) {t : Tree} (henter : ∀ d, enter name t d = some d)
    (ms ms' : List (List Char × Tree)) (d : D) :
    load enter d (ms ++ (key, t) :: ms') = load enter d (ms ++ ms') := by
  simp only [load_append, load_cons, keyName?_eq_some_iff.mpr hkey, Option.bind_some, henter]

/-- Members of a record that fill different parts of the draft. -/
structure Record.IsLawful (r : Record D α) : Prop where
  lawful : ∀ m ∈ r.members, m.IsLawful
  apart : r.members.Pairwise Member.Apart
  isSet_empty : ∀ m ∈ r.members, m.isSet r.empty = false

theorem apart_of_name_ne (h : members.Pairwise Member.Apart) {m m' : Member D} (hm : m ∈ members)
    (hm' : m' ∈ members) (hne : m.name ≠ m'.name) : m.Apart m' := by
  have : Std.Symm (Member.Apart (D := D)) := ⟨fun _ _ h => h.symm⟩
  exact h.forall hm hm' fun heq => hne (congrArg Member.name heq)

theorem name_of_find? {m : Member D} {name : String}
    (h : members.find? (·.name = name) = some m) : m.name = name := by
  simpa using List.find?_some h

theorem enterMember_unknown {name : String} (h : members.find? (·.name = name) = none) (t : Tree)
    (d : D) : enterMember members name t d = some d := by
  rw [enterMember, h]

theorem enterMember_known {m : Member D} {name : String}
    (h : members.find? (·.name = name) = some m) (t : Tree) (d : D) :
    enterMember members name t d = if m.isSet d then none else value? (m.read d) t := by
  rw [enterMember, h]

theorem enterMember_twice {m : Member D} (hm : m.IsLawful) {name : String}
    (h : members.find? (·.name = name) = some m) (t t' : Tree) (d : D) :
    (enterMember members name t d).bind (enterMember members name t') = none := by
  rw [enterMember_known h]
  split
  · rfl
  · cases hv : value? (m.read d) t with
    | none => rfl
    | some d' => rw [Option.bind_some, enterMember_known h, if_pos (hm.isSet hv)]

theorem value?_bind_enterMember {m m' : Member D} (hapart : m.Apart m') {name : String}
    (h : members.find? (·.name = name) = some m') (t t' : Tree) (d : D) :
    (value? (m.read d) t).bind (enterMember members name t') =
      if m'.isSet d then none
      else (value? (m.read d) t).bind fun d' => value? (m'.read d') t' := by
  cases hv : value? (m.read d) t with
  | none => split <;> rfl
  | some d' =>
    rw [Option.bind_some, enterMember_known h, hapart.isSet_right hv]
    rfl

theorem enterMember_comm (hlawful : ∀ m ∈ members, m.IsLawful)
    (hapart : members.Pairwise Member.Apart) (name name' : String) (t t' : Tree) (d : D) :
    (enterMember members name t d).bind (enterMember members name' t') =
      (enterMember members name' t' d).bind (enterMember members name t) := by
  cases h : members.find? (·.name = name) with
  | none => cases he : enterMember members name' t' d <;> simp [enterMember_unknown h, he]
  | some m =>
    cases h' : members.find? (·.name = name') with
    | none => cases he : enterMember members name t d <;> simp [enterMember_unknown h', he]
    | some m' =>
      have hm : m ∈ members := List.mem_of_find?_eq_some h
      have hm' : m' ∈ members := List.mem_of_find?_eq_some h'
      by_cases hname : name = name'
      · subst hname
        rw [enterMember_twice (hlawful m hm) h, enterMember_twice (hlawful m hm) h]
      · have hmm' : m.Apart m' := by
          apply apart_of_name_ne hapart hm hm'
          rwa [name_of_find? h, name_of_find? h']
        rw [enterMember_known h, enterMember_known h']
        split
        · split
          · rfl
          · rw [value?_bind_enterMember hmm'.symm h, if_pos (by assumption)]
            rfl
        · rw [value?_bind_enterMember hmm' h']
          split
          · rfl
          · rw [value?_bind_enterMember hmm'.symm h, if_neg (by assumption), hmm'.comm]

/-- A member that no key names is as it was. -/
theorem isSet_load (hapart : members.Pairwise Member.Apart) {m : Member D} (hm : m ∈ members)
    {ms : List (List Char × Tree)} (homitted : ∀ e ∈ ms, keyName? e.1 ≠ some m.name) {d d' : D}
    (h : load (enterMember members) d ms = some d') : m.isSet d' = m.isSet d := by
  induction ms generalizing d with
  | nil =>
    cases h
    rfl
  | cons e ms ih =>
    obtain ⟨key, t⟩ := e
    rw [load_cons] at h
    obtain ⟨d₁, henter, hload⟩ := Option.bind_eq_some_iff.mp h
    obtain ⟨name, hkey, henter⟩ := Option.bind_eq_some_iff.mp henter
    have hne : m.name ≠ name := by
      rintro rfl
      exact homitted _ List.mem_cons_self hkey
    rw [ih (fun e he => homitted e (List.mem_cons_of_mem _ he)) hload]
    cases hfind : members.find? (·.name = name) with
    | none =>
      rw [enterMember_unknown hfind] at henter
      rw [Option.some.inj henter]
    | some m' =>
      have hmm' : m.Apart m' := by
        apply apart_of_name_ne hapart hm (List.mem_of_find?_eq_some hfind)
        rwa [name_of_find? hfind]
      rw [enterMember_known hfind] at henter
      split at henter
      · cases henter
      · exact hmm'.isSet_left henter

/-! ### What a document says -/

/-- None of the members has the name. -/
def Omits (ms : List (List Char × Tree)) (name : String) : Prop :=
  ∀ m ∈ ms, ¬ Spells m.1 name.toList

/-- Members that say the same to a reader which knows some names, each with or without a default:
in another order, with members of other names, and with a default that is spelled out. -/
inductive SaysTheSame (known : List String) (defaults : List (String × Tree)) :
    List (List Char × Tree) → List (List Char × Tree) → Prop where
  | permuted {ms ms' : List (List Char × Tree)} : ms.Perm ms' → SaysTheSame known defaults ms ms'
  | unknown {key : List Char} {name : String} (t : Tree) (ms ms' : List (List Char × Tree)) :
      Spells key name.toList → name ∉ known →
        SaysTheSame known defaults (ms ++ ms') (ms ++ (key, t) :: ms')
  | omitted {key : List Char} {name : String} {t : Tree} {ms : List (List Char × Tree)} :
      Spells key name.toList → (name, t) ∈ defaults → Omits ms name →
        SaysTheSame known defaults ms ((key, t) :: ms)
  | symm {ms ms' : List (List Char × Tree)} : SaysTheSame known defaults ms ms' →
      SaysTheSame known defaults ms' ms
  | trans {ms ms' ms'' : List (List Char × Tree)} : SaysTheSame known defaults ms ms' →
      SaysTheSame known defaults ms' ms'' → SaysTheSame known defaults ms ms''

theorem toOption_decode_of_read {reader : Reader α} {text : String} {v : Option α}
    {rest : List Char} (h : (reader text.toList).toOption = v.map (·, rest))
    (hrest : skipBlanks rest = []) : (decode reader text).toOption = v := by
  rw [decode]
  generalize reader text.toList = read at h ⊢
  rcases read with e | ⟨value, rest'⟩
  · cases v with
    | none => rfl
    | some v => cases h
  · cases v with
    | none => cases h
    | some v =>
      cases h
      simp only [hrest]
      rfl

namespace Record

variable {r : Record D α}

def names (r : Record D α) : List String := r.members.map (·.name)

/-- What the record is if an object has these members. -/
noncomputable def outcome? (r : Record D α) (ms : List (List Char × Tree)) : Option α :=
  (load (enterMember r.members) r.empty ms).bind fun d => (r.finish d).toOption

/-- A tree that the record's member can be given without a change. -/
def IsDefault (r : Record D α) (name : String) (t : Tree) : Prop :=
  ∃ m, r.members.find? (·.name = name) = some m ∧ ∀ d, m.isSet d = false →
    ∃ d', value? (m.read d) t = some d' ∧ r.finish d' = r.finish d

/-- A default is what the member's reader makes of it, and makes no difference to the record. -/
theorem IsDefault.of {β : Type} {name : String} {get : D → Option β}
    {set : D → β → D} {reader : Reader β} {h : Consumes reader} {t : Tree} {v : β}
    (hfind : r.members.find? (·.name = name) = some (.of name get set reader h))
    (hvalue : value? reader t = some v)
    (hfinish : ∀ d, get d = none → r.finish (set d v) = r.finish d) : r.IsDefault name t := by
  refine ⟨_, hfind, fun d hunset => ⟨set d v, ?_, ?_⟩⟩
  · rw [value?_of, hvalue]
    rfl
  · exact hfinish d (Member.eq_none_of_isSet hunset)

theorem keyName?_ne_of_omits {ms : List (List Char × Tree)} {name : String} (h : Omits ms name) :
    ∀ m ∈ ms, keyName? m.1 ≠ some name :=
  fun m hm hname => h m hm (keyName?_eq_some_iff.mp hname)

theorem outcome?_omitted (hr : r.IsLawful) {key : List Char} {name : String} {t : Tree}
    {ms : List (List Char × Tree)} (hkey : Spells key name.toList) (hdefault : r.IsDefault name t)
    (homits : Omits ms name) : r.outcome? ms = r.outcome? ((key, t) :: ms) := by
  obtain ⟨m, hfind, hsame⟩ := hdefault
  have hm : m ∈ r.members := List.mem_of_find?_eq_some hfind
  have hlast : ((key, t) :: ms).Perm (ms ++ [(key, t)]) := (List.perm_append_singleton _ _).symm
  rw [outcome?, outcome?, load_perm (enterMember_comm hr.lawful hr.apart) hlast, load_append]
  cases hload : load (enterMember r.members) r.empty ms with
  | none => rfl
  | some d =>
    have homits : Omits ms m.name := by rwa [name_of_find? hfind]
    have hunset : m.isSet d = false := by
      rw [← hr.isSet_empty m hm]
      exact isSet_load hr.apart hm (keyName?_ne_of_omits homits) hload
    obtain ⟨d', hvalue, hfinish⟩ := hsame d hunset
    have hlast : load (enterMember r.members) d [(key, t)] = some d' := by
      rw [load_cons, keyName?_eq_some_iff.mpr hkey, Option.bind_some, enterMember_known hfind,
        hunset, hvalue]
      rfl
    rw [Option.bind_some, Option.bind_some, hlast, Option.bind_some, hfinish]

/-- The draft of a record, in which the members that no key names are open. -/
theorem exists_draft (hr : r.IsLawful) {ms : List (List Char × Tree)}
    {v : α} (h : r.outcome? ms = some v) :
    ∃ d, r.finish d = .ok v ∧ ∀ m ∈ r.members, Omits ms m.name → m.isSet d = false := by
  obtain ⟨d, hload, hfinish⟩ := Option.bind_eq_some_iff.mp h
  refine ⟨d, ?_, fun m hm homits => ?_⟩
  · cases hf : r.finish d with
    | error e => rw [hf] at hfinish; cases hfinish
    | ok w => rw [hf] at hfinish; cases hfinish; rfl
  · rw [← hr.isSet_empty m hm]
    exact isSet_load hr.apart hm (keyName?_ne_of_omits homits) hload

theorem outcome?_eq (hr : r.IsLawful) {defaults : List (String × Tree)}
    (hdefaults : ∀ e ∈ defaults, r.IsDefault e.1 e.2) {ms ms' : List (List Char × Tree)}
    (h : SaysTheSame r.names defaults ms ms') : r.outcome? ms = r.outcome? ms' := by
  induction h with
  | permuted h => rw [outcome?, outcome?, load_perm (enterMember_comm hr.lawful hr.apart) h]
  | @unknown key name t ms ms' hkey hname =>
    have hfind : r.members.find? (·.name = name) = none := by
      rw [List.find?_eq_none]
      intro m hm heq
      exact hname (List.mem_map.mpr ⟨m, hm, by simpa using heq⟩)
    rw [outcome?, outcome?, load_unknown hkey (enterMember_unknown hfind t)]
  | omitted hkey hdefault homits => exact outcome?_omitted hr hkey (hdefaults _ hdefault) homits
  | symm _ ih => exact ih.symm
  | trans _ _ ih ih' => exact ih.trans ih'

theorem toOption_readObject (s : List Char) :
    (r.readObject s).toOption =
      (readMembers r.members true r.empty s).toOption.bind fun (d, rest) =>
        (r.finish d).toOption.bind fun v => (closeObject rest).toOption.map (v, ·) := by
  rw [readObject]
  rcases readMembers r.members true r.empty s with e | ⟨d, rest⟩
  · rfl
  · simp only
    cases hfinish : r.finish d with
    | error e => simp only [Except.toOption, Option.bind_some, hfinish, Option.bind_none]
    | ok v =>
      simp only [Except.toOption, Option.bind_some, hfinish]
      exact toOption_map _ _

theorem toOption_decode (hr : r.IsLawful) {ms : List (List Char × Tree)} {text : String}
    (h : IsDocument ms text) : (decode r.read text).toOption = r.outcome? ms := by
  obtain ⟨b, s, b', hb, hs, hb', htext⟩ := h
  have hskip := hs.skipBlanks_append hb b'
  cases hs with
  | @object _ s hms =>
    obtain ⟨b₁, hb₁, hread⟩ := (isLoop_readMembers r.members).written
      (enters_readMember hr.lawful) hms r.empty b'
    have hrecord : r.read text.toList = r.readObject (s ++ '\x7d' :: b') := by
      rw [htext, read, hskip, List.cons_append, List.append_assoc]
      rfl
    apply toOption_decode_of_read _ (skipBlanks_eq_nil hb')
    rw [hrecord, toOption_readObject, hread, outcome?]
    cases load (enterMember r.members) r.empty ms with
    | none => rfl
    | some d =>
      cases hfinish : r.finish d <;>
        simp [hfinish, closeObject_append hb₁, Except.toOption]

end Record
end GuestNet.Json
