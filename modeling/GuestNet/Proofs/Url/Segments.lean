import GuestNet.Proofs.Access.Spelling
import GuestNet.Proofs.Url.Reading

/-! The paths of addresses that have a host. Each of their segments is a step on: it has no slash in
it, and it does not stand for one dot or for two, however it is written. -/
namespace GuestNet.Url

/-- A segment that leads neither back nor nowhere. -/
structure IsStep (s : Segment) : Prop where
  not_mem_slash : '/' ∉ s
  not_stay : percentDecode s ≠ percentDecode ['.']
  not_back : percentDecode s ≠ percentDecode ['.', '.']

theorem IsStep.of_not_dots {s : Segment} (hslash : '/' ∉ s) (hsingle : isSingleDot s = false)
    (hdouble : isDoubleDot s = false) : IsStep s where
  not_mem_slash := hslash
  not_stay h := Bool.false_ne_true (hsingle.symm.trans (isSingleDot_of_percentDecode h))
  not_back h := Bool.false_ne_true (hdouble.symm.trans (isDoubleDot_of_percentDecode h))

theorem isStep_nil : IsStep [] := .of_not_dots List.not_mem_nil rfl rfl

theorem keepsPercents_pathSet : KeepsPercents pathSet := by
  intro c hc
  rcases hc with rfl | hc
  · decide
  · obtain ⟨n, hn⟩ := Option.isSome_iff_exists.mp hc
    obtain ⟨hlt, hlower⟩ := hexDigitValue?_eq_some hn
    rw [toNat_toLower] at hlower
    have hbounds : 48 ≤ c.toNat ∧ c.toNat ≤ 102 := by
      split_ifs at hlower <;> omega
    have hcontrol : controlSet c = false := by
      simp only [controlSet, isAsciiControl, Bool.or_eq_false_iff, decide_eq_false_iff_not,
        beq_eq_false_iff_ne]
      omega
    have hnot {set : List Char} (hset : set.all (fun d => (hexDigitValue? d).isNone) = true) :
        c ∉ set := by
      intro hm
      cases (Option.isNone_iff_eq_none.mp (List.all_eq_true.mp hset c hm)).symm.trans hn
    rw [pathSet, fragmentSet, hcontrol, Bool.false_or, Bool.or_eq_false_iff]
    exact ⟨decide_eq_false (hnot (by decide)), decide_eq_false (hnot (by decide))⟩

theorem slash_not_mem_encodeByte (b : UInt8) : '/' ∉ encodeByte b := by
  have hb := b.toNat_lt
  have hdigit : ∀ n < 16, '/' ≠ upperHexDigit n := by decide
  simp only [encodeByte, List.mem_cons, List.not_mem_nil, or_false, not_or]
  exact ⟨by decide, hdigit _ (by omega), hdigit _ (by omega)⟩

theorem slash_not_mem_percentEncode {set : Char → Bool} {s : Segment} (hs : '/' ∉ s) :
    '/' ∉ percentEncode set s := by
  rw [percentEncode, List.mem_flatMap]
  rintro ⟨c, hc, hm⟩
  rw [encodeChar] at hm
  split at hm
  · obtain ⟨b, -, hb⟩ := List.mem_flatMap.mp hm
    exact slash_not_mem_encodeByte b hb
  · rw [List.mem_singleton.mp hm] at hs
    exact hs hc

/-- Encoding makes no dots. -/
theorem IsStep.percentEncode {s : Segment} (h : IsStep s) : IsStep (percentEncode pathSet s) where
  not_mem_slash := slash_not_mem_percentEncode h.not_mem_slash
  not_stay := by
    rw [percentDecode_percentEncode keepsPercents_pathSet]
    exact h.not_stay
  not_back := by
    rw [percentDecode_percentEncode keepsPercents_pathSet]
    exact h.not_back

theorem isStep_normalSegment {s : Segment} (h : IsStep s) (kind : Kind) (isFirst : Bool) :
    IsStep (normalSegment kind isFirst s) := by
  rw [normalSegment]
  split
  · rename_i hdrive
    have hcolon : ':' ∈ s.take 1 ++ [':'] := by simp
    obtain ⟨hsingle, hdouble⟩ := not_dots_of_colon hcolon
    refine .of_not_dots (fun hm => ?_) hsingle hdouble
    rcases List.mem_append.mp hm with hm | hm
    · exact h.not_mem_slash (List.mem_of_mem_take hm)
    · exact absurd hm (by decide)
  · exact h

section Resolve

variable {kind : Kind} {done : List Segment}

theorem isStep_shorten (hd : ∀ d ∈ done, IsStep d) : ∀ d ∈ shorten kind done, IsStep d := by
  intro d hm
  cases done with
  | nil => exact hd d hm
  | cons e rest =>
    rw [shorten] at hm
    split at hm
    · exact hd d hm
    · exact hd d (List.mem_cons_of_mem e hm)

/-- One more segment: where it is no step on, it is left out. -/
theorem isStep_addSegment {s : Segment} (isLast : Bool) (hs : '/' ∉ s)
    (hd : ∀ d ∈ done, IsStep d) : ∀ d ∈ addSegment kind isLast done s, IsStep d := by
  have hend {rest : List Segment} (hr : ∀ d ∈ rest, IsStep d) :
      ∀ d ∈ (if isLast then [] :: rest else rest), IsStep d := by
    cases isLast with
    | false => exact hr
    | true => exact List.forall_mem_cons.mpr ⟨isStep_nil, hr⟩
  rw [addSegment]
  split
  · exact hend (isStep_shorten hd)
  · rename_i hdouble
    split
    · exact hend hd
    · rename_i hsingle
      have hstep : IsStep s := .of_not_dots hs (eq_false_of_ne_true hsingle)
        (eq_false_of_ne_true hdouble)
      exact List.forall_mem_cons.mpr ⟨(isStep_normalSegment hstep kind _).percentEncode, hd⟩

theorem isStep_resolve {segments : List Segment} (hs : ∀ s ∈ segments, '/' ∉ s)
    (hd : ∀ d ∈ done, IsStep d) : ∀ d ∈ resolve kind done segments, IsStep d := by
  fun_induction resolve kind done segments with
  | case1 done => exact hd
  | case2 done s => exact isStep_addSegment true (hs s List.mem_cons_self) hd
  | case3 done s rest _ ih =>
    exact ih (fun t ht => hs t (List.mem_cons_of_mem s ht))
      (isStep_addSegment false (hs s List.mem_cons_self) hd)

end Resolve

/-- A path of steps. -/
def Path.IsSteps (p : Path) : Prop := ∃ parts, p = .segments parts ∧ ∀ q ∈ parts, IsStep q.toList

theorem isStep_trimFile {segments : List Segment} (hs : ∀ s ∈ segments, IsStep s) :
    ∀ s ∈ trimFile segments, IsStep s := by
  rw [trimFile]
  split
  · exact List.forall_mem_singleton.mpr isStep_nil
  · exact fun s hm => hs s ((List.dropWhile_sublist _).subset hm)

theorem isSteps_resolvePath (kind : Kind) (s : List Char) : (resolvePath kind [] s).IsSteps := by
  have hsegments : ∀ d ∈ (resolve kind [] (splitSegments kind s)).reverse, IsStep d := by
    intro d hd
    exact isStep_resolve (fun t ht => Target.not_mem_of_mem_splitOn ht)
      (fun _ hm => absurd hm List.not_mem_nil) d (List.mem_reverse.mp hd)
  refine ⟨_, rfl, fun q hq => ?_⟩
  obtain ⟨d, hd, rfl⟩ := List.mem_map.mp hq
  rw [String.toList_ofList]
  split at hd
  · exact isStep_trimFile hsegments d hd
  · exact hsegments d hd

theorem isSteps_readPath (kind : Kind) (s : List Char) : (readPath kind s).IsSteps := by
  simp only [readPath]
  split
  · split
    · exact ⟨[""], rfl, List.forall_mem_singleton.mpr isStep_nil⟩
    · exact ⟨[], rfl, fun _ hm => absurd hm List.not_mem_nil⟩
  · split
    · exact isSteps_resolvePath kind _
    · exact isSteps_resolvePath kind _

theorem isSteps_of_readAfterSlashes {kind : Kind} {scheme : String} {s : List Char} {u : Url}
    (h : readAfterSlashes kind scheme s = .ok u) : u.path.IsSteps := by
  simp only [readAfterSlashes] at h
  split at h
  · cases h
  · cases h
    exact isSteps_readPath kind _

theorem isSteps_of_readFile {s : List Char} {u : Url} (h : readFile s = .ok u) :
    u.path.IsSteps := by
  rw [readFile] at h
  split at h
  · cases h
  · cases h
    exact isSteps_resolvePath .file _

/-- Only an address without a host may have another path. -/
theorem isSteps_of_parse {text : String} {u : Url} (h : parse text = .ok u) (hh : u.host ≠ none) :
    u.path.IsSteps := by
  obtain ⟨scheme, rest, -, hread, -⟩ := parse_eq_ok h
  unfold readAfterScheme at hread
  split at hread
  · exact isSteps_of_readFile hread
  · exact isSteps_of_readAfterSlashes hread
  · split at hread
    · exact isSteps_of_readAfterSlashes hread
    · cases hread
      exact absurd rfl hh

/-- Behind a first segment, the segments of a path are read back where they are written. -/
theorem splitOn_steps {s : Segment} {parts : List String} (hs : '/' ∉ s)
    (hp : ∀ q ∈ parts, '/' ∉ q.toList) :
    (s ++ parts.flatMap ('/' :: ·.toList)).splitOn '/' = s :: parts.map String.toList := by
  induction parts generalizing s with
  | nil => rw [List.flatMap_nil, List.append_nil, List.splitOn_eq_singleton hs, List.map_nil]
  | cons q parts ih =>
    obtain ⟨hq, hrest⟩ := List.forall_mem_cons.mp hp
    rw [List.flatMap_cons, List.cons_append, List.splitOn_append_cons_self,
      List.splitOn_eq_singleton hs, ih hq hrest]
    rfl

theorem toList_write_segments (parts : List String) :
    (Path.segments parts).write.toList = parts.flatMap ('/' :: ·.toList) := by
  rw [Path.write, String.toList_join, List.flatMap_map]
  congr 1
  funext q
  rw [String.toList_append]
  rfl

/-- What stands between the slashes of a path. -/
def segments (path : String) : List Segment := path.toList.splitOn '/'

theorem isStep_of_mem_segments {p : Path} (h : p.IsSteps) : ∀ s ∈ segments p.write, IsStep s := by
  obtain ⟨parts, rfl, hparts⟩ := h
  have hsplit := splitOn_steps (s := []) List.not_mem_nil fun q hq => (hparts q hq).not_mem_slash
  rw [List.nil_append] at hsplit
  rw [segments, toList_write_segments, hsplit]
  refine List.forall_mem_cons.mpr ⟨isStep_nil, fun s hs => ?_⟩
  obtain ⟨q, hq, rfl⟩ := List.mem_map.mp hs
  exact hparts q hq

end GuestNet.Url
