import GuestNet.Proofs.Overlap.Openings

/-! A call that has a cell to itself is the first in its line, and stays so until it goes. What a
step can be for one cell is told from that: no other call is at work there when one starts. -/
namespace GuestNet.Overlap

namespace Stage

variable {W C : Type}

/-- What the connection in a cell does for a call. -/
def workAt? (c : CellId) (s : Stage W C) : Option Work :=
  (s.work?.filter fun w => w.1 = c).map Prod.snd

theorem workAt?_eq_some_iff {c : CellId} {s : Stage W C} {w : Work} :
    s.workAt? c = some w ↔ s.work? = some (c, w) := by
  simp [workAt?, Option.filter_eq_some_iff]

theorem workAt?_eq_none {c : CellId} {s : Stage W C} (h : s.cell? ≠ some c) :
    s.workAt? c = none := by
  refine Option.eq_none_iff_forall_ne_some.mpr fun w hw => h ?_
  exact cell?_of_work? (workAt?_eq_some_iff.mp hw)

end Stage

namespace Machine

variable {W C : Type} {m m' : Machine W C} {id : CallId} {s' : Stage W C}
  {before : Option (Stage W C)} {cell c : CellId} {f : Cell C → Cell C}

theorem Changed.first?_of_ne (h : m.Changed m' cell f) (hc : c ≠ cell) :
    m'.first? c = m.first? c := by
  rw [first?, first?, h.of_ne hc]

theorem Changed.first?_eq (h : m.Changed m' cell f) (hf : ∀ d, (f d).line = d.line) :
    m'.first? = m.first? := by
  funext k
  rw [first?, first?, h k]
  split
  · simp [hf, Option.bind_map]
  · rfl

theorem lt_of_first? {k : CallId} (h : m.first? c = some k) : c < m.cells.size := by
  obtain ⟨d, hd, -⟩ := Option.bind_eq_some_iff.mp h
  exact (Array.getElem?_eq_some_iff.mp hd).1

/-- Whoever enters a line does not get ahead of anyone. -/
theorem Changed.first?_enter (h : m.Changed m' cell (.enter id)) {k : CallId}
    (hk : m.first? c = some k) : m'.first? c = some k := by
  by_cases hc : c = cell
  · obtain ⟨d, hd, hl⟩ := Option.bind_eq_some_iff.mp hk
    rw [first?, h c, if_pos hc, hd]
    simp [Cell.enter, List.head?_append, hl]
  · rw [h.first?_of_ne hc, hk]

/-- A call that has a cell to itself is the first in its line. -/
def Attended (m : Machine W C) : Prop :=
  ∀ {k : CallId} {s : Stage W C} {c : CellId}, m.calls[k]? = some s → s.cell? = some c →
    m.first? c = some k

theorem attended_new (config : Config) (backends : List (Backend W C)) (world : W) :
    (new config backends world).Attended := by
  intro k s c hk
  simp [new] at hk

/-- No two calls have a cell to themselves. -/
theorem Attended.unique (ha : m.Attended) {j k : CallId} {s t : Stage W C}
    (hj : m.calls[j]? = some s) (hs : s.cell? = some c) (hk : m.calls[k]? = some t)
    (ht : t.cell? = some c) : j = k :=
  Option.some.inj ((ha hj hs).symm.trans (ha hk ht))

variable [Connection C]

/-- Only the first in a line can make that another call is the first. -/
theorem Attended.first?_of_ne (ha : m.Attended) (hs : Shift m m' id m.calls[id]? s') {k : CallId}
    (hk : m.first? c = some k) (hne : k ≠ id) : m'.first? c = some k := by
  -- the call goes from the cell where it is the first, which is not the cell `c`
  have hleft {cell : CellId} {f : Cell C → Cell C} (hf : m.first? cell = some id)
      (hc : m.Changed m' cell f) : m'.first? c = some k := by
    have hcell : c ≠ cell := by
      rintro rfl
      exact hne (Option.some.inj (hk.symm.trans hf))
    rw [hc.first?_of_ne hcell, hk]
  have hpush {d : Cell C} (hc : m'.cells = m.cells.push d) : m'.first? c = some k := by
    rw [first?, hc, Array.getElem?_push, if_neg (lt_of_first? hk).ne]
    exact hk
  generalize hb : m.calls[id]? = before at hs
  cases hs with
  | away hc | connected hc | begun hc | released hc => rwa [first?, hc]
  | issued _ _ hc | refused _ _ hc => exact hpush hc
  | queued hc => exact hc.first?_enter hk
  | declined hf _ hc => exact hleft hf hc
  | took _ _ hc | tookNext _ _ hc => rwa [hc.first?_eq fun _ => rfl]
  | abandoned hc | closed _ hc => exact hleft (ha hb rfl) hc
  | performed _ hc => exact hleft (ha hb rfl) hc

theorem Attended.shift (ha : m.Attended) (ht : Turn m m' id s')
    (hs : Shift m m' id m.calls[id]? s') : m'.Attended := by
  intro k s c hk hcell
  rcases ht.elim hk with ⟨rfl, rfl⟩ | ⟨hne, hk⟩
  · generalize hb : m.calls[k]? = before at hs
    cases hs with
    | away _ _ _ hn => cases hn.symm.trans hcell
    | begun hc hf =>
      cases hcell
      rwa [first?, hc]
    | took hf _ hc | tookNext hf _ hc =>
      cases hcell
      rwa [hc.first?_eq fun _ => rfl]
    | released hc =>
      cases hcell
      rw [first?, hc]
      exact ha hb rfl
    | declined | closed => simp at hcell
    | connected | issued | refused | queued | abandoned | performed => cases hcell
  · exact ha.first?_of_ne hs (ha hk hcell) hne

/-- What a step of a call is for the connection in one cell. -/
inductive Visit (m m' : Machine W C) (id : CallId) (c : CellId) :
    Option (Stage W C) → Stage W C → Prop where
  | apart {before : Option (Stage W C)} {s' : Stage W C} : before.bind (Stage.workAt? c) = none →
      s'.workAt? c = none → (c < m.cells.size → m'.slot? c = m.slot? c) → Visit m m' id c before s'
  | starts {before : Option (Stage W C)} {s' : Stage W C} (w : Work) :
      before.bind (Stage.workAt? c) = none → s'.workAt? c = some w → m.first? c = some id →
        m.phase? c ≠ some .released → m'.slot? c = m.slot? c → Visit m m' id c before s'
  | performs {op : Operation} {slot : Slot C} : m.slot? c = some slot →
      m'.slot? c = some (slot.perform m.setup.config.maxTransfer op).2 →
        Visit m m' id c (some (.performing c op))
          (.finished (slot.perform m.setup.config.maxTransfer op).1)
  | closes {rest : List CellId} {slot : Slot C} : m.slot? c = some slot →
      m'.slot? c = some slot.closed → m'.phase? c = some .released →
        Visit m m' id c (some (.closing c rest)) (.closeNext rest)

theorem Shift.visit {log : List Event} (hcust : Custody log m) (ha : m.Attended)
    (hs : Shift m m' id m.calls[id]? s') (c : CellId) : Visit m m' id c m.calls[id]? s' := by
  have hnone {s : Stage W C} (h : s.cell? ≠ some c) :
      (some s).bind (Stage.workAt? c) = none := Stage.workAt?_eq_none h
  have hpush {d : Cell C} (hc : m'.cells = m.cells.push d) (hlt : c < m.cells.size) :
      m'.slot? c = m.slot? c := by
    rw [slot?, slot?, hc, Array.getElem?_push, if_neg hlt.ne]
  generalize hb : m.calls[id]? = before at hs ⊢
  cases hs with
  | away hc hn _ hn' =>
    refine .apart ?_ (Stage.workAt?_eq_none (by simp [hn'])) fun _ => by rw [slot?, slot?, hc]
    rcases before with _ | s
    · rfl
    · exact hnone (by simpa using fun h => by simp [h] at hn)
  | connected hc => exact .apart rfl rfl fun _ => by rw [slot?, slot?, hc]
  | issued _ _ hc | refused _ _ hc => exact .apart rfl rfl (hpush hc)
  | queued hc => exact .apart rfl rfl fun _ => by rw [hc.slot?_eq fun _ => rfl]
  | declined _ _ hc =>
    exact .apart rfl (Stage.workAt?_eq_none (by simp)) fun _ => by rw [hc.slot?_eq fun _ => rfl]
  | took _ _ hc => exact .apart rfl rfl fun _ => by rw [hc.slot?_eq fun _ => rfl]
  | abandoned hc => exact .apart rfl rfl fun _ => by rw [hc.slot?_eq fun _ => rfl]
  | @begun cell h op hc hf hp =>
    by_cases he : cell = c
    · subst he
      exact .starts _ rfl (Stage.workAt?_eq_some_iff.mpr rfl) hf (by simp [hp])
        (by rw [slot?, slot?, hc])
    · exact .apart rfl (Stage.workAt?_eq_none (by simpa [Stage.cell?])) fun _ => by
        rw [slot?, slot?, hc]
  | @tookNext cell rest hf hp hc =>
    by_cases he : cell = c
    · subst he
      exact .starts _ rfl (Stage.workAt?_eq_some_iff.mpr rfl) hf (by simp [hp])
        (by rw [hc.slot?_eq fun _ => rfl])
    · exact .apart rfl (Stage.workAt?_eq_none (by simpa [Stage.cell?])) fun _ => by
        rw [hc.slot?_eq fun _ => rfl]
  | @released cell h hc =>
    by_cases he : cell = c
    · subst he
      exact .starts _ rfl (Stage.workAt?_eq_some_iff.mpr rfl) (ha hb rfl)
        (by simp [hcust.taken_of_holds hb rfl]) (by rw [slot?, slot?, hc])
    · exact .apart rfl (Stage.workAt?_eq_none (by simpa [Stage.cell?])) fun _ => by
        rw [slot?, slot?, hc]
  | @performed cell op slot hslot hc =>
    by_cases he : cell = c
    · subst he
      refine .performs hslot ?_
      obtain ⟨d, hd, -⟩ := Option.map_eq_some_iff.mp hslot
      rw [slot?, hc cell, if_pos rfl, hd]
      rfl
    · exact .apart (hnone (by simpa [Stage.cell?])) rfl fun _ => hc.slot?_of_ne (Ne.symm he)
  | @closed cell rest slot hslot hc =>
    by_cases he : cell = c
    · subst he
      obtain ⟨d, hd, -⟩ := Option.map_eq_some_iff.mp hslot
      refine .closes hslot ?_ ?_
      · rw [slot?, hc cell, if_pos rfl, hd]
        rfl
      · rw [phase?, hc cell, if_pos rfl, hd]
        rfl
    · exact .apart (hnone (by simpa [Stage.cell?])) (Stage.workAt?_eq_none (by simp)) fun _ =>
        hc.slot?_of_ne (Ne.symm he)

end Machine

variable {W C : Type} [Connection C] {config : Config} {backends : List (Backend W C)} {world : W}
  {trace : List (Mark C)} {m : Machine W C}

theorem Chronicle.attended (h : Chronicle config backends world trace m) : m.Attended :=
  h.of_shifts (P := fun _ m => m.Attended) (Machine.attended_new config backends world)
    fun _ ha ht _ hs => ha.shift ht hs

end GuestNet.Overlap
