import GuestNet.Proofs.Access.RequestedEndpoint
import GuestNet.Proofs.Access.RuleOrder
import GuestNet.Proofs.Url.Segments

/-! Rules with a path. Such a rule admits what goes on from its path at a slash, which is to say
segment by segment, and no admitted path leads out of it again. -/
namespace GuestNet

namespace Url

/-- Segments cover those that start with them. An empty one at the end covers any. -/
def Covers (outer inner : List Segment) : Prop :=
  outer <+: inner ∨ ∃ front s, outer = front ++ [[]] ∧ front ++ [s] <+: inner

theorem Covers.length_le {outer inner : List Segment} (h : Covers outer inner) :
    outer.length ≤ inner.length := by
  rcases h with h | ⟨front, s, rfl, h⟩
  · exact h.length_le
  · have hlength := h.length_le
    rwa [List.length_append] at hlength ⊢

theorem intercalate_append_cons {front : List Segment} (hne : front ≠ []) (s : Segment)
    (rest : List Segment) : ['/'].intercalate (front ++ s :: rest) =
      ['/'].intercalate front ++ '/' :: ['/'].intercalate (s :: rest) := by
  induction front with
  | nil => exact absurd rfl hne
  | cons t front ih =>
    cases front with
    | nil =>
      rw [List.singleton_append, List.intercalate_cons_cons, List.append_assoc,
        List.intercalate_singleton]
      rfl
    | cons t' front =>
      rw [List.cons_append, List.cons_append, List.intercalate_cons_cons, ← List.cons_append,
        ih (List.cons_ne_nil t' front), List.intercalate_cons_cons]
      simp only [List.append_assoc]

/-- What is split behind a front that was split off another text goes on from that text. -/
theorem exists_of_splitOn_eq {outer inner : List Char} {front rest : List Segment} {s : Segment}
    (ho : outer = ['/'].intercalate front) (hne : front ≠ [])
    (hi : inner.splitOn '/' = front ++ s :: rest) : ∃ tail, inner = outer ++ '/' :: tail := by
  have hinner : ['/'].intercalate (inner.splitOn '/') = inner := List.intercalate_splitOn '/'
  rw [hi, intercalate_append_cons hne, ← ho] at hinner
  exact ⟨_, hinner.symm⟩

/-- Paths go on at slashes just if their segments do. -/
theorem covers_splitOn_iff {outer inner : List Char} (hne : outer ≠ []) :
    Covers (outer.splitOn '/') (inner.splitOn '/') ↔
      Endpoint.pathWithin outer inner = true := by
  have houter : ['/'].intercalate (outer.splitOn '/') = outer := List.intercalate_splitOn '/'
  rw [Endpoint.pathWithin_iff, or_iff_right hne]
  constructor
  · rintro (⟨more, hm⟩ | ⟨front, s, hf, more, hm⟩)
    · cases more with
      | nil =>
        rw [List.append_nil] at hm
        rw [hm] at houter
        exact .inl ((List.intercalate_splitOn '/').symm.trans houter)
      | cons s more =>
        obtain ⟨tail, ht⟩ := exists_of_splitOn_eq houter.symm (List.splitOn_ne_nil '/' outer) hm.symm
        exact .inr ⟨outer, tail, ht, .inl rfl⟩
    · have hfront : front ≠ [] := by
        rintro rfl
        rw [hf] at houter
        exact hne houter.symm
      rw [List.append_assoc] at hm
      obtain ⟨tail, ht⟩ := exists_of_splitOn_eq rfl hfront hm.symm
      rw [hf, intercalate_append_cons hfront] at houter
      exact .inr ⟨_, tail, ht, .inr houter.symm⟩
  · rintro (rfl | ⟨front, rest, rfl, rfl | rfl⟩)
    · exact .inl List.prefix_rfl
    · rw [List.splitOn_append_cons_self]
      exact .inl (List.prefix_append _ _)
    · obtain ⟨s, more, hs⟩ := List.exists_cons_of_ne_nil (List.splitOn_ne_nil '/' rest)
      rw [List.splitOn_append_cons_self, List.splitOn_append_cons_self, hs, List.splitOn_nil]
      exact .inr ⟨_, s, rfl, more, by rw [List.append_assoc]; rfl⟩

/-- One segment more on the way: one dot stays where it is, and two dots go back. -/
def move (place : List Segment) (s : Segment) : List Segment :=
  if percentDecode s = percentDecode ['.'] then place
  else if percentDecode s = percentDecode ['.', '.'] then place.dropLast
  else place ++ [s]

/-- Where segments lead to. -/
def arrival (segments : List Segment) : List Segment := segments.foldl move []

theorem foldl_move_of_isStep {segments : List Segment} (h : ∀ s ∈ segments, IsStep s)
    (place : List Segment) : segments.foldl move place = place ++ segments := by
  induction segments generalizing place with
  | nil => exact (List.append_nil place).symm
  | cons s segments ih =>
    obtain ⟨hs, hrest⟩ := List.forall_mem_cons.mp h
    rw [List.foldl_cons, ih hrest, move, if_neg hs.not_stay, if_neg hs.not_back,
      List.append_assoc]
    rfl

theorem arrival_of_isStep {segments : List Segment} (h : ∀ s ∈ segments, IsStep s) :
    arrival segments = segments :=
  foldl_move_of_isStep h []

end Url

namespace Endpoint

open Url

variable {rule e : Endpoint} {t : Target}

theorem isStep_of_ofTarget (h : ofTarget t = .ok e) : ∀ s ∈ segments e.path, IsStep s := by
  obtain ⟨u, hu, -, -, hend⟩ := ofTarget_eq_ok h
  obtain ⟨host, hhost, rfl⟩ := Option.map_eq_some_iff.mp hend
  have hne : u.host ≠ none := by
    intro hnone
    rw [hostText?, hnone] at hhost
    cases hhost
  change ∀ s ∈ segments (pathText u), IsStep s
  rw [pathText]
  split
  · exact List.forall_mem_singleton.mpr isStep_nil
  · exact isStep_of_mem_segments (isSteps_of_parse hu hne)

theorem isStep_of_parseRule {text : String} (h : parseRule text = .ok rule) :
    ∀ s ∈ segments rule.path, IsStep s := by
  rw [parseRule] at h
  split at h
  · cases h
  · exact isStep_of_ofTarget h

theorem admits_iff_pathWithin (hs : rule.scheme = e.scheme) (hh : rule.host = e.host)
    (hp : rule.port = none ∨ rule.port = e.port) :
    rule.admits e = true ↔ pathWithin rule.path.toList e.path.toList = true := by
  rw [admits_iff]
  exact ⟨fun h => h.2.2.2, fun h => ⟨hs, hh, hp, h⟩⟩

theorem pathWithin_iff_covers (hne : rule.path ≠ "") :
    pathWithin rule.path.toList e.path.toList = true ↔
      Covers (segments rule.path) (segments e.path) :=
  (covers_splitOn_iff (mt String.toList_eq_nil_iff.mp hne)).symm

/-- A rule without a path admits all paths, and any other one those that its segments cover. No
segment of a path stands for dots, so that a path leads to no other place than the one which the
rule admits. -/
theorem admits_iff_covers {text : String} (hrule : parseRule text = .ok rule)
    (he : ofTarget t = .ok e) :
    (rule.scheme = e.scheme → rule.host = e.host → rule.port = none ∨ rule.port = e.port →
        (rule.path = "" → rule.admits e = true) ∧
          (rule.path ≠ "" →
            (rule.admits e = true ↔ Covers (segments rule.path) (segments e.path)))) ∧
      (∀ s ∈ segments rule.path ++ segments e.path,
        percentDecode s ≠ percentDecode ['.'] ∧ percentDecode s ≠ percentDecode ['.', '.']) ∧
      (rule.admits e = true → rule.path ≠ "" →
        Covers (segments rule.path) (arrival (segments e.path))) := by
  have hsteps := isStep_of_ofTarget he
  refine ⟨fun hs hh hp => ⟨fun hpath => ?_, fun hpath => ?_⟩, fun s hm => ?_, fun ha hpath => ?_⟩
  · rw [admits_iff_pathWithin hs hh hp, hpath]
    exact pathWithin_iff.mpr (.inl rfl)
  · rw [admits_iff_pathWithin hs hh hp, pathWithin_iff_covers hpath]
  · rcases List.mem_append.mp hm with hm | hm
    · have hstep := isStep_of_parseRule hrule s hm
      exact ⟨hstep.not_stay, hstep.not_back⟩
    · exact ⟨(hsteps s hm).not_stay, (hsteps s hm).not_back⟩
  · rw [arrival_of_isStep hsteps]
    exact (pathWithin_iff_covers hpath).mp (admits_iff.mp ha).2.2.2

/-- Two dots that are encoded go back before the rule is asked, into its directory or out of it. -/
theorem admits_iff_covers_in_directory :
    let rule : Endpoint := ⟨"http", "[::1]", some 80, "/v1/"⟩
    let inside : Endpoint := ⟨"http", "[::1]", some 80, "/v1/b"⟩
    let outside : Endpoint := ⟨"http", "[::1]", some 80, "/b"⟩
    parseRule "http://[::1]/v1/" = .ok rule ∧
      ofTarget ⟨"http", "http://[::1]/v1/a/%2e%2E/b", ""⟩ = .ok inside ∧
      rule.admits inside = true ∧
      ofTarget ⟨"http", "http://[::1]/v1/.%2E/b", ""⟩ = .ok outside ∧
      rule.admits outside = false := by
  intro rule inside outside
  have hrule : parseRule "http://[::1]/v1/" = .ok rule := by decide +kernel
  have hinside : ofTarget ⟨"http", "http://[::1]/v1/a/%2e%2E/b", ""⟩ = .ok inside := by
    decide +kernel
  have houtside : ofTarget ⟨"http", "http://[::1]/v1/.%2E/b", ""⟩ = .ok outside := by
    decide +kernel
  have hpath : rule.path ≠ "" := by decide
  have hin := ((admits_iff_covers hrule hinside).1 rfl rfl (.inr rfl)).2 hpath
  have hout := ((admits_iff_covers hrule houtside).1 rfl rfl (.inr rfl)).2 hpath
  refine ⟨hrule, hinside, hin.mpr ?_, houtside, ?_⟩
  · exact .inr ⟨[[], ['v', '1']], ['b'], by decide, by decide⟩
  · rw [← Bool.not_eq_true, hout]
    intro hcovers
    exact absurd hcovers.length_le (by decide)

end Endpoint
end GuestNet
