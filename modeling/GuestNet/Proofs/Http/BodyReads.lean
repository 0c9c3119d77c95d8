import Mathlib.Data.List.Infix
import GuestNet.Http.Body

/-! Reading the body of an answer into buffers. Whatever arrives, and whatever the sizes of the
buffers, the bytes that are read are those that arrived, each once and in its place, and no more is
asked of the body than a read needs. -/
namespace GuestNet.Http

/-- What comes of asking for the next frame: a frame, or that there is none. -/
abbrev Poll := Option Frame

/-- So many empty chunks. -/
def Frame.blanks (k : Nat) : List Frame := List.replicate k (.bytes [])

namespace Poll

/-- What a script has to give up to the first end. A script that stops without one ends there. -/
def untilEnd : List Poll → List Poll
  | some frame :: rest => some frame :: untilEnd rest
  | _ => [none]

/-- The frames of a script up to its end. -/
def frames (script : List Poll) : List Frame := (untilEnd script).reduceOption

def data : Poll → Bytes
  | some (.bytes data) => data
  | _ => []

/-- The chunks one after the other. -/
def body (polls : List Poll) : Bytes := polls.flatMap data

theorem frames_append_end (script : List Poll) :
    (frames script).map some ++ [none] = untilEnd script := by
  induction script with
  | nil => rfl
  | cons poll rest ih =>
    cases poll with
    | none => rfl
    | some frame => exact congrArg (some frame :: ·) ih

theorem body_append (polls polls' : List Poll) : body (polls ++ polls') = body polls ++ body polls' :=
  List.flatMap_append

theorem body_singleton (poll : Poll) : body [poll] = poll.data := List.flatMap_singleton data poll

theorem body_blanks (k : Nat) : body ((Frame.blanks k).map some) = [] := by
  induction k with
  | zero => rfl
  | succ k ih => exact ih

end Poll

/-- What becomes of a read into a buffer, and what was polled for it. -/
structure Filling where
  result : Except DriverError Nat
  buffer : Bytes
  polls : List Poll
  connection : ResponseConnection

/-- The bytes that the result tells of. -/
def Filling.received (f : Filling) : Bytes :=
  match f.result with
  | .ok n => f.buffer.take n
  | .error _ => []

namespace ResponseConnection

/-- Copies what is pending to the front of a buffer, as far as it fits. -/
def drainInto (buf : Bytes) (polls : List Poll) (c : ResponseConnection) : Filling :=
  let n := min buf.length c.pending.length
  ⟨.ok n, c.pending.take n ++ buf.drop n, polls, { c with pending := c.pending.drop n }⟩

/-- Polls until something other than an empty chunk comes. -/
def pollInto (buf : Bytes) (c : ResponseConnection) : List Frame → Filling
  | [] => ⟨.ok 0, buf, [none], { c with frames := none }⟩
  | .broken :: rest =>
    ⟨.error (.transfer .body), buf, [some .broken], { c with frames := some rest }⟩
  | .bytes [] :: rest =>
    let f := pollInto buf c rest
    { f with polls := some (.bytes []) :: f.polls }
  | .bytes data :: rest =>
    { c with frames := some rest, pending := data }.drainInto buf [some (.bytes data)]

/-- Reads into a buffer. -/
def fill (buf : Bytes) (c : ResponseConnection) : Filling :=
  if buf = [] then ⟨.ok 0, buf, [], c⟩
  else if c.pending ≠ [] then c.drainInto buf []
  else
    match c.frames with
    | none => ⟨.ok 0, buf, [], c⟩
    | some frames => c.pollInto buf frames

/-- Reads into one buffer after the other. -/
def fillAll : List Bytes → ResponseConnection → List Filling
  | [], _ => []
  | buf :: rest, c => c.fill buf :: fillAll rest (c.fill buf).connection

/-- The connection after reads into buffers. -/
def after (bufs : List Bytes) (c : ResponseConnection) : ResponseConnection :=
  bufs.foldl (fun c buf => (c.fill buf).connection) c

/-- What polling has yet to give. -/
def ahead (c : ResponseConnection) : List Poll :=
  c.frames.elim [] fun frames => frames.map some ++ [none]

variable {buf : Bytes} {c : ResponseConnection}

/-- The ways in which a read into a buffer can go. -/
inductive Fills (buf : Bytes) (c : ResponseConnection) : Filling → Prop where
  | nothing : buf = [] → Fills buf c ⟨.ok 0, buf, [], c⟩
  | drained : buf ≠ [] → c.pending ≠ [] → Fills buf c (c.drainInto buf [])
  | spent : buf ≠ [] → c.pending = [] → c.frames = none → Fills buf c ⟨.ok 0, buf, [], c⟩
  | ended (k : Nat) : buf ≠ [] → c.pending = [] → c.frames = some (Frame.blanks k) →
      Fills buf c ⟨.ok 0, buf, (Frame.blanks k).map some ++ [none], { c with frames := none }⟩
  | broke (k : Nat) {rest : List Frame} : buf ≠ [] → c.pending = [] →
      c.frames = some (Frame.blanks k ++ Frame.broken :: rest) →
        Fills buf c ⟨.error (.transfer .body), buf, (Frame.blanks k).map some ++ [some Frame.broken],
          { c with frames := some rest }⟩
  | arrived (k : Nat) {data : Bytes} {rest : List Frame} : buf ≠ [] → c.pending = [] →
      c.frames = some (Frame.blanks k ++ Frame.bytes data :: rest) → data ≠ [] →
        Fills buf c ({ c with frames := some rest, pending := data }.drainInto buf
          ((Frame.blanks k).map some ++ [some (Frame.bytes data)]))

theorem fills_pollInto (hbuf : buf ≠ []) (hc : c.pending = []) {frames : List Frame}
    (k : Nat) (hframes : c.frames = some (Frame.blanks k ++ frames)) :
    Fills buf c { c.pollInto buf frames with
      polls := (Frame.blanks k).map some ++ (c.pollInto buf frames).polls } := by
  induction frames generalizing k with
  | nil =>
    rw [List.append_nil] at hframes
    exact .ended k hbuf hc hframes
  | cons frame rest ih =>
    cases frame with
    | broken => exact .broke k hbuf hc hframes
    | bytes data =>
      cases data with
      | cons b data => exact .arrived k hbuf hc hframes (List.cons_ne_nil b data)
      | nil =>
        have hblank : Frame.blanks k ++ Frame.bytes [] :: rest = Frame.blanks (k + 1) ++ rest := by
          rw [Frame.blanks, Frame.blanks, List.replicate_succ', List.append_assoc,
            List.singleton_append]
        rw [hblank] at hframes
        have h := ih (k + 1) hframes
        rw [Frame.blanks, List.replicate_succ', List.map_append, List.append_assoc] at h
        exact h

theorem fills_fill (buf : Bytes) (c : ResponseConnection) : Fills buf c (c.fill buf) := by
  unfold fill
  split
  · rename_i hbuf
    exact .nothing hbuf
  · rename_i hbuf
    split
    · rename_i hc
      exact .drained hbuf hc
    · rename_i hc
      have hc : c.pending = [] := not_not.mp hc
      split
      · rename_i hframes
        exact .spent hbuf hc hframes
      · rename_i frames hframes
        exact fills_pollInto hbuf hc 0 hframes

theorem length_take_drainInto (buf : Bytes) (c : ResponseConnection) :
    (c.pending.take (min buf.length c.pending.length)).length =
      min buf.length c.pending.length := by
  rw [List.length_take, min_assoc, min_self]

theorem take_drainInto (buf : Bytes) (polls : List Poll) (c : ResponseConnection) :
    (c.drainInto buf polls).buffer.take (min buf.length c.pending.length) =
      c.pending.take buf.length := by
  rw [drainInto, List.take_left' (length_take_drainInto buf c), List.take_eq_take_iff, min_assoc,
    min_self]

theorem drop_drainInto (buf : Bytes) (polls : List Poll) (c : ResponseConnection) :
    (c.drainInto buf polls).buffer.drop (min buf.length c.pending.length) =
      buf.drop (min buf.length c.pending.length) := by
  rw [drainInto, List.drop_left' (length_take_drainInto buf c)]

theorem received_drainInto (buf : Bytes) (polls : List Poll) (c : ResponseConnection) :
    (c.drainInto buf polls).received = c.pending.take buf.length :=
  take_drainInto buf polls c

theorem connection_drainInto (buf : Bytes) (polls : List Poll) (c : ResponseConnection) :
    (c.drainInto buf polls).connection = { c with pending := c.pending.drop buf.length } := by
  have hdrop : c.pending.drop (min buf.length c.pending.length) = c.pending.drop buf.length := by
    rw [List.drop_eq_drop_iff, min_assoc, min_self]
  rw [drainInto, hdrop]

/-- A read gives the bytes that are told of in a buffer. -/
def Agrees (read : Except DriverError Bytes × ResponseConnection) (f : Filling) : Prop :=
  read = (f.result.map f.buffer.take, f.connection)

theorem agrees_drainInto (buf : Bytes) (polls : List Poll) (c : ResponseConnection) :
    Agrees (.ok (c.pending.take buf.length), { c with pending := c.pending.drop buf.length })
      (c.drainInto buf polls) := by
  rw [Agrees, connection_drainInto, ← take_drainInto buf polls c]
  rfl

theorem agrees_pollInto (buf : Bytes) (c : ResponseConnection) (frames : List Frame) :
    Agrees (c.readFrames buf.length frames) (c.pollInto buf frames) := by
  fun_induction pollInto buf c frames with
  | case1 => rfl
  | case2 => rfl
  | case3 rest f ih => exact ih
  | case4 data rest hdata =>
    obtain ⟨b, data, rfl⟩ := List.exists_cons_of_ne_nil hdata
    exact agrees_drainInto buf _ { c with frames := some rest, pending := b :: data }

/-- A read into a buffer is a read of as many bytes as the buffer has. -/
theorem agrees_fill (buf : Bytes) (c : ResponseConnection) :
    Agrees (c.read buf.length) (c.fill buf) := by
  unfold read fill
  by_cases hbuf : buf = []
  · rw [if_pos hbuf, if_pos (List.length_eq_zero_iff.mpr hbuf)]
    rfl
  rw [if_neg hbuf, if_neg (mt List.length_eq_zero_iff.mp hbuf)]
  by_cases hc : c.pending = []
  · rw [if_neg (not_not_intro hc), if_neg (not_not_intro hc)]
    cases c.frames with
    | none => rfl
    | some frames => exact agrees_pollInto buf c frames
  · rw [if_pos hc, if_pos hc]
    exact agrees_drainInto buf [] c

/-- A read takes what it polled off what is ahead, and gives of the bytes that are pending then
those that fit. -/
theorem Fills.conserves {f : Filling} (h : Fills buf c f) :
    c.ahead = f.polls ++ f.connection.ahead ∧
      c.pending ++ Poll.body f.polls = f.received ++ f.connection.pending := by
  cases h with
  | nothing => exact ⟨rfl, List.append_nil c.pending⟩
  | drained =>
    rw [received_drainInto, connection_drainInto, List.take_append_drop]
    exact ⟨rfl, List.append_nil c.pending⟩
  | spent => exact ⟨rfl, List.append_nil c.pending⟩
  | ended k _ hc hframes =>
    have hbody : Poll.body ((Frame.blanks k).map some ++ [none]) = [] := by
      rw [Poll.body_append, Poll.body_blanks]
      rfl
    rw [hbody]
    simp [ahead, hframes, Filling.received]
  | broke k _ hc hframes =>
    have hbody : Poll.body ((Frame.blanks k).map some ++ [some .broken]) = [] := by
      rw [Poll.body_append, Poll.body_blanks]
      rfl
    simp [ahead, hframes, Filling.received, hbody]
  | @arrived k data rest _ hc hframes =>
    have hbody : Poll.body ((Frame.blanks k).map some ++ [some (.bytes data)]) = data := by
      rw [Poll.body_append, Poll.body_blanks, Poll.body_singleton]
      rfl
    rw [received_drainInto, connection_drainInto, List.take_append_drop]
    simp [ahead, hframes, hc, hbody, drainInto]

/-- What can still be read. -/
def unread (c : ResponseConnection) : Bytes := c.pending ++ Poll.body c.ahead

theorem Fills.unread_eq {f : Filling} (h : Fills buf c f) :
    c.unread = f.received ++ f.connection.unread := by
  obtain ⟨hahead, hpending⟩ := h.conserves
  rw [unread, hahead, Poll.body_append, ← List.append_assoc, hpending, List.append_assoc]
  rfl

theorem ahead_eq_iff (frames : List Frame) :
    c.ahead = frames.map some ++ [none] ↔ c.frames = some frames := by
  unfold ahead
  cases c.frames with
  | none => simp
  | some frames' =>
    have hinj : Function.Injective (List.map (some : Frame → Poll)) :=
      List.map_injective_iff.mpr fun _ _ => Option.some.inj
    simp [hinj.eq_iff]

theorem mem_blanks {frame : Frame} {k : Nat} (h : frame ∈ Frame.blanks k) : frame = .bytes [] :=
  List.eq_of_mem_replicate h

/-- A read for some bytes gives none just if none are pending and the end is what comes. -/
theorem Fills.result_eq_zero_iff {f : Filling} (h : Fills buf c f) (hbuf : buf ≠ []) :
    f.result = .ok 0 ↔
      c.pending = [] ∧ (c.frames = none ∨ ∃ k, c.frames = some (Frame.blanks k)) := by
  have hlength : buf.length ≠ 0 := mt List.length_eq_zero_iff.mp hbuf
  cases h with
  | nothing h => exact absurd h hbuf
  | drained _ hc =>
    have hpending : c.pending.length ≠ 0 := mt List.length_eq_zero_iff.mp hc
    refine iff_of_false (fun h => ?_) fun h => hc h.1
    have hmin : min buf.length c.pending.length = 0 := Except.ok.inj h
    omega
  | spent _ hc hframes => exact iff_of_true rfl ⟨hc, .inl hframes⟩
  | ended k _ hc hframes => exact iff_of_true rfl ⟨hc, .inr ⟨k, hframes⟩⟩
  | broke k _ hc hframes =>
    refine iff_of_false nofun ?_
    rintro ⟨-, hnone | ⟨k', hblanks⟩⟩
    · cases hframes.symm.trans hnone
    · have heq := Option.some.inj (hframes.symm.trans hblanks)
      have hmem : Frame.broken ∈ Frame.blanks k' := by simp [← heq]
      cases mem_blanks hmem
  | @arrived k data rest _ hc hframes hdata =>
    have hpending : data.length ≠ 0 := mt List.length_eq_zero_iff.mp hdata
    refine iff_of_false (fun h => ?_) ?_
    · have hmin : min buf.length data.length = 0 := Except.ok.inj h
      omega
    · rintro ⟨-, hnone | ⟨k', hblanks⟩⟩
      · cases hframes.symm.trans hnone
      · have heq := Option.some.inj (hframes.symm.trans hblanks)
        have hmem : Frame.bytes data ∈ Frame.blanks k' := by simp [← heq]
        exact hdata (Frame.bytes.inj (mem_blanks hmem))

/-- Where a connection stands in a script of which `polled` was polled. -/
structure Stands (script polled : List Poll) (received : Bytes) (c : ResponseConnection) :
    Prop where
  ahead : Poll.untilEnd script = polled ++ c.ahead
  pending : Poll.body polled = received ++ c.pending
  spent : c.frames = none → c.pending = []

theorem stands_ofResponse (script : List Poll) (status : Nat) (headers : Headers) :
    Stands script [] [] (ofResponse ⟨status, headers, Poll.frames script⟩) :=
  ⟨(Poll.frames_append_end script).symm, rfl, nofun⟩

namespace Stands

variable {script polled : List Poll} {received : Bytes}

theorem fill (h : Stands script polled received c) (buf : Bytes) :
    Stands script (polled ++ (c.fill buf).polls) (received ++ (c.fill buf).received)
      (c.fill buf).connection := by
  have hfills := fills_fill buf c
  obtain ⟨hahead, hpending⟩ := hfills.conserves
  refine ⟨?_, ?_, ?_⟩
  · rw [h.ahead, hahead, List.append_assoc]
  · rw [Poll.body_append, h.pending, List.append_assoc, hpending, List.append_assoc]
  · intro hnone
    generalize c.fill buf = f at hfills hnone
    cases hfills with
    | nothing => exact h.spent hnone
    | drained _ hc => exact absurd (h.spent hnone) hc
    | spent _ hc => exact hc
    | ended _ _ hc => exact hc
    | broke => cases hnone
    | arrived => cases hnone

theorem fillAll (h : Stands script polled received c) (bufs : List Bytes) :
    Stands script (polled ++ (c.fillAll bufs).flatMap Filling.polls)
      (received ++ (c.fillAll bufs).flatMap Filling.received) (c.after bufs) := by
  induction bufs generalizing c polled received with
  | nil =>
    rw [ResponseConnection.fillAll, List.flatMap_nil, List.flatMap_nil, List.append_nil,
      List.append_nil]
    exact h
  | cons buf bufs ih =>
    have hrest := ih (h.fill buf)
    rw [List.append_assoc, List.append_assoc] at hrest
    exact hrest

/-- The end was polled just if the connection knows of it. -/
theorem none_mem_iff (h : Stands script polled received c) :
    none ∈ polled ↔ c.frames = none := by
  have hscript := h.ahead
  rw [← Poll.frames_append_end, ResponseConnection.ahead] at hscript
  cases hframes : c.frames with
  | none =>
    rw [hframes, Option.elim_none, List.append_nil] at hscript
    refine iff_of_true ?_ rfl
    rw [← hscript]
    simp
  | some frames =>
    rw [hframes, Option.elim_some, ← List.append_assoc] at hscript
    have hpolled := List.append_cancel_right hscript
    refine iff_of_false (fun hmem => ?_) nofun
    have hmem : none ∈ (Poll.frames script).map some := by
      rw [hpolled]
      exact List.mem_append_left _ hmem
    simp at hmem

end Stands

/-- What the next read into a buffer does, where `polled` was polled of a body and `rest` was not.
-/
structure ReadsOn (polled rest : List Poll) (c : ResponseConnection) (buf : Bytes) : Prop where
  agrees : Agrees (c.read buf.length) (c.fill buf)
  within : ∀ n, (c.fill buf).result = .ok n →
    n ≤ buf.length ∧ (c.fill buf).buffer.length = buf.length ∧
      (c.fill buf).buffer.drop n = buf.drop n
  failed : ∀ e, (c.fill buf).result = .error e → (c.fill buf).buffer = buf
  inOrder : (c.fill buf).polls <+: rest
  polls : (c.fill buf).polls ≠ [] → c.pending = [] ∧ buf ≠ []
  zero : buf ≠ [] → ((c.fill buf).result = .ok 0 ↔ c.pending = [] ∧
    (none ∈ polled ∨ ∃ k, rest = (Frame.blanks k).map some ++ [none]))
  spent : none ∈ polled → c.fill buf = ⟨.ok 0, buf, [], c⟩
  nothing : buf = [] → c.fill buf = ⟨.ok 0, buf, [], c⟩

theorem Fills.within {f : Filling} (h : Fills buf c f) {n : Nat} (hn : f.result = .ok n) :
    n ≤ buf.length ∧ f.buffer.length = buf.length ∧ f.buffer.drop n = buf.drop n := by
  have hdrain (polls : List Poll) (c : ResponseConnection)
      (hn : (c.drainInto buf polls).result = .ok n) :
      n ≤ buf.length ∧ (c.drainInto buf polls).buffer.length = buf.length ∧
        (c.drainInto buf polls).buffer.drop n = buf.drop n := by
    cases hn
    refine ⟨min_le_left .., ?_, drop_drainInto buf polls c⟩
    rw [drainInto, List.length_append, length_take_drainInto, List.length_drop]
    omega
  cases h with
  | drained => exact hdrain [] c hn
  | arrived k => exact hdrain _ _ hn
  | broke => cases hn
  | nothing | spent | ended =>
    cases hn
    exact ⟨Nat.zero_le _, rfl, rfl⟩

theorem Fills.buffer_of_error {f : Filling} (h : Fills buf c f) {e : DriverError}
    (he : f.result = .error e) : f.buffer = buf := by
  cases h with
  | nothing | spent | ended | broke => rfl
  | drained | arrived => cases he

theorem Fills.of_polls {f : Filling} (h : Fills buf c f) (hpolls : f.polls ≠ []) :
    c.pending = [] ∧ buf ≠ [] := by
  cases h with
  | nothing | drained | spent => exact absurd rfl hpolls
  | ended _ hbuf hc | broke _ hbuf hc | arrived _ hbuf hc => exact ⟨hc, hbuf⟩

theorem Stands.readsOn {script polled : List Poll} {received : Bytes}
    (h : Stands script polled received c) (buf : Bytes) : ReadsOn polled c.ahead c buf where
  agrees := agrees_fill buf c
  within _ := (fills_fill buf c).within
  failed _ := (fills_fill buf c).buffer_of_error
  inOrder := ⟨_, (fills_fill buf c).conserves.1.symm⟩
  polls := (fills_fill buf c).of_polls
  zero hbuf := by
    rw [(fills_fill buf c).result_eq_zero_iff hbuf, h.none_mem_iff]
    simp only [ahead_eq_iff]
  spent hmem := by
    have hframes := h.none_mem_iff.mp hmem
    rw [ResponseConnection.fill, if_neg (not_not_intro (h.spent hframes)), hframes, ite_self]
  nothing hbuf := by rw [ResponseConnection.fill, if_pos hbuf]

theorem Fills.broken_mem {f : Filling} (h : Fills buf c f) {e : DriverError}
    (he : f.result = .error e) : some .broken ∈ c.ahead := by
  cases h with
  | nothing | drained | spent | ended | arrived => cases he
  | broke k _ _ hframes => simp [ahead, hframes]

theorem unread_eq_nil (hc : c.pending = [])
    (hframes : c.frames = none ∨ ∃ k, c.frames = some (Frame.blanks k)) : c.unread = [] := by
  rw [unread, hc, List.nil_append]
  rcases hframes with hframes | ⟨k, hframes⟩
  · rw [ahead, hframes]
    rfl
  · rw [ahead_eq_iff _ |>.mpr hframes, Poll.body_append, Poll.body_blanks]
    rfl

/-- A read for some bytes of a body that does not break gives some, or the body is at its end. -/
theorem Fills.progress {f : Filling} (h : Fills buf c f) (hbuf : buf ≠ [])
    (hwhole : some .broken ∉ c.ahead) :
    f.result = .ok 0 ∧ c.unread = [] ∨
      ∃ n, 0 < n ∧ f.result = .ok n ∧ f.received.length = n := by
  cases hresult : f.result with
  | error e => exact absurd (h.broken_mem hresult) hwhole
  | ok n =>
    rcases Nat.eq_zero_or_pos n with rfl | hpos
    · obtain ⟨hc, hframes⟩ := (h.result_eq_zero_iff hbuf).mp hresult
      exact .inl ⟨rfl, unread_eq_nil hc hframes⟩
    · obtain ⟨hn, hbuffer, -⟩ := h.within hresult
      refine .inr ⟨n, hpos, rfl, ?_⟩
      rw [Filling.received, hresult]
      exact List.length_take_of_le (hbuffer ▸ hn)

theorem after_range_succ (bufs : ℕ → Bytes) (n : ℕ) (c : ResponseConnection) :
    c.after ((List.range (n + 1)).map bufs) =
      (c.fill (bufs 0)).connection.after ((List.range n).map fun i => bufs (i + 1)) := by
  rw [List.range_succ_eq_map, List.map_cons, List.map_map]
  rfl

theorem fillAll_range_succ (bufs : ℕ → Bytes) (n : ℕ) (c : ResponseConnection) :
    c.fillAll ((List.range (n + 1)).map bufs) = c.fill (bufs 0) ::
      (c.fill (bufs 0)).connection.fillAll ((List.range n).map fun i => bufs (i + 1)) := by
  rw [List.range_succ_eq_map, List.map_cons, List.map_map]
  rfl

/-- Reads for some bytes come to the end of a body that does not break, with all that was left. The
induction is on how much that is. -/
theorem exists_end (hwhole : some .broken ∉ c.ahead) {bufs : ℕ → Bytes} (hbufs : ∀ i, bufs i ≠ []) :
    ∃ n, (∀ f ∈ c.fillAll ((List.range n).map bufs), ∃ k, 0 < k ∧ f.result = .ok k) ∧
      ((c.after ((List.range n).map bufs)).fill (bufs n)).result = .ok 0 ∧
        (c.fillAll ((List.range n).map bufs)).flatMap Filling.received = c.unread := by
  induction hlength : c.unread.length using Nat.strong_induction_on generalizing c bufs with
  | _ length ih =>
    have hfills := fills_fill (bufs 0) c
    rcases hfills.progress (hbufs 0) hwhole with ⟨hzero, hunread⟩ | ⟨k, hpos, hk, hreceived⟩
    · exact ⟨0, nofun, hzero, hunread.symm⟩
    · have hunread := hfills.unread_eq
      have hshorter : (c.fill (bufs 0)).connection.unread.length < length := by
        rw [← hlength, hunread, List.length_append]
        omega
      have hwhole' : some .broken ∉ (c.fill (bufs 0)).connection.ahead := fun hmem =>
        hwhole (hfills.conserves.1 ▸ List.mem_append_right _ hmem)
      have hbufs' : ∀ i, (fun i => bufs (i + 1)) i ≠ [] := fun i => hbufs (i + 1)
      obtain ⟨n, hall, hend, hbody⟩ := ih _ hshorter hwhole' hbufs' rfl
      refine ⟨n + 1, ?_, ?_, ?_⟩
      · rw [fillAll_range_succ]
        exact List.forall_mem_cons.mpr ⟨⟨k, hpos, hk⟩, hall⟩
      · rw [after_range_succ]
        exact hend
      · rw [fillAll_range_succ, List.flatMap_cons, hbody, ← hunread]

end ResponseConnection

open ResponseConnection

/-- Reads of a body into buffers, of any number and any sizes, give its bytes in their order, and
each of them polls no more than it needs and tells no end that has not come. Reads for some bytes of
a body that does not break come to its end with all of it. -/
theorem reads_reproduce_body (script : List Poll) (status : Nat) (headers : Headers) :
    let c := ResponseConnection.ofResponse ⟨status, headers, Poll.frames script⟩
    (∀ bufs : List Bytes,
      let polled := (c.fillAll bufs).flatMap Filling.polls
      let received := (c.fillAll bufs).flatMap Filling.received
      received <+: Poll.body (Poll.untilEnd script) ∧
        Poll.body polled = received ++ (c.after bufs).pending ∧
        ∃ rest, Poll.untilEnd script = polled ++ rest ∧
          ∀ buf, ReadsOn polled rest (c.after bufs) buf) ∧
      (some .broken ∉ Poll.untilEnd script → ∀ bufs : ℕ → Bytes, (∀ i, bufs i ≠ []) →
        ∃ n, (∀ f ∈ c.fillAll ((List.range n).map bufs), ∃ k, 0 < k ∧ f.result = .ok k) ∧
          ((c.after ((List.range n).map bufs)).fill (bufs n)).result = .ok 0 ∧
          (c.fillAll ((List.range n).map bufs)).flatMap Filling.received =
            Poll.body (Poll.untilEnd script)) := by
  intro c
  have hstart := stands_ofResponse script status headers
  refine ⟨fun bufs => ?_, fun hwhole bufs hbufs => ?_⟩
  · have hstands := hstart.fillAll bufs
    rw [List.nil_append, List.nil_append] at hstands
    refine ⟨?_, hstands.pending, _, hstands.ahead, hstands.readsOn⟩
    rw [hstands.ahead, Poll.body_append, hstands.pending, List.append_assoc]
    exact List.prefix_append _ _
  · have hscript : Poll.untilEnd script = c.ahead := hstart.ahead
    rw [hscript] at hwhole ⊢
    exact exists_end hwhole hbufs

/-- Five bytes in two chunks with an empty one between them, read by twos. -/
theorem reads_reproduce_body_by_twos :
    let script : List Poll := [some (.bytes [1, 2, 3]), some (.bytes []), some (.bytes [4, 5]), none]
    let c := ResponseConnection.ofResponse ⟨200, ⟨[]⟩, Poll.frames script⟩
    some .broken ∉ Poll.untilEnd script ∧
      ∃ n, ((c.after (List.replicate n [0, 0])).fill [0, 0]).result = .ok 0 ∧
        (c.fillAll (List.replicate n [0, 0])).flatMap Filling.received = [1, 2, 3, 4, 5] := by
  intro script c
  have hwhole : some .broken ∉ Poll.untilEnd script := by decide
  obtain ⟨n, -, hend, hbody⟩ := (reads_reproduce_body script 200 ⟨[]⟩).2 hwhole
    (fun _ => [0, 0]) fun _ => List.cons_ne_nil 0 [0]
  rw [List.map_const', List.length_range] at hend hbody
  exact ⟨hwhole, n, hend, hbody⟩

end GuestNet.Http
