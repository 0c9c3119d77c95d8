import GuestNet.Http.Exchange
import GuestNet.Http.Message
import GuestNet.Proofs.Driver.Effects

/-! Bodies that break off. An answer whose body is not complete by its framing gives the bytes that
came, then fails once, and after that it looks as if it had come to its end. -/
namespace GuestNet

/-- Connections of one type as connections of another, which read and write alike. -/
structure Connection.Carries {A B : Type} [Connection A] [Connection B] (f : A → B) : Prop where
  read : ∀ (len : Nat) (a : A), Connection.read len (f a) = (Connection.read len a).map id f
  write : ∀ (data : Bytes) (a : A), Connection.write data (f a) = (Connection.write data a).map id f

namespace Http

/-- The chunks of a body up to the last one, which has no bytes, and the fields after it. -/
inductive CompleteChunks : Bytes → Prop where
  | last {s rest : Bytes} {line : List Char} : splitLine? s = some (line, rest) →
      readSize? line = some 0 → (readFields? .empty rest).isSome = true → CompleteChunks s
  | chunk {s rest more : Bytes} {line : List Char} {size : Nat} :
      splitLine? s = some (line, rest) → readSize? line = some size → size ≠ 0 →
        rest.drop size = 13 :: 10 :: more → CompleteChunks more → CompleteChunks s

/-- What came of a body before the stream ended is all of it. -/
def Framing.Complete : Framing → Bytes → Prop
  | .length n, s => n ≤ s.length
  | .chunked, s => CompleteChunks s
  | .empty, _ | .untilClose, _ => True

/-- A body comes in parts, and then it breaks off. -/
def BreaksOff (frames : List Frame) (body : Bytes) : Prop :=
  ∃ parts : List Bytes, frames = parts.map .bytes ++ [.broken] ∧ parts.flatten = body

theorem BreaksOff.cons {frames : List Frame} {body : Bytes} (hf : BreaksOff frames body)
    (data : Bytes) : BreaksOff (.bytes data :: frames) (data ++ body) := by
  obtain ⟨parts, rfl, rfl⟩ := hf
  exact ⟨data :: parts, rfl, rfl⟩

theorem BreaksOff.broken_mem {frames : List Frame} {body : Bytes} (hf : BreaksOff frames body) :
    .broken ∈ frames := by
  obtain ⟨parts, rfl, -⟩ := hf
  simp

theorem breaksOff_readChunks {s : Bytes} (hs : ¬ CompleteChunks s) :
    ∃ body, BreaksOff (readChunks s) body := by
  fun_induction readChunks s with
  | case1 | case2 | case4 => exact ⟨[], [], rfl, rfl⟩
  | case3 s line rest hline hsize hfields => exact absurd (.last hline hsize hfields) hs
  | case5 s line rest => exact ⟨rest, [rest], rfl, List.append_nil rest⟩
  | case6 s line rest hline size hpos hsize hfits more hmore ih =>
    obtain ⟨body, hbody⟩ := ih fun hc => hs (.chunk hline hsize hpos hmore hc)
    exact ⟨_, hbody.cons (rest.take size)⟩
  | case7 s line rest hline size =>
    exact ⟨rest.take size, [rest.take size], rfl, List.append_nil _⟩

/-- How a body in chunks goes on, which its first line tells. -/
theorem CompleteChunks.elim {s rest : Bytes} {line : List Char} {size : Nat}
    (hs : CompleteChunks s) (hline : splitLine? s = some (line, rest))
    (hsize : readSize? line = some size) :
    size = 0 ∧ (readFields? .empty rest).isSome = true ∨
      ∃ more, rest.drop size = 13 :: 10 :: more ∧ CompleteChunks more := by
  cases hs with
  | last hline' hsize' hfields =>
    cases hline.symm.trans hline'
    cases hsize.symm.trans hsize'
    exact .inl ⟨rfl, hfields⟩
  | chunk hline' hsize' _ hmore hc =>
    cases hline.symm.trans hline'
    cases hsize.symm.trans hsize'
    exact .inr ⟨_, hmore, hc⟩

theorem broken_not_mem_readChunks {s : Bytes} (hs : CompleteChunks s) :
    .broken ∉ readChunks s := by
  fun_induction readChunks s with
  | case1 s hline => cases hs <;> simp_all
  | case2 s line rest hline hsize => cases hs <;> simp_all
  | case3 => exact List.not_mem_nil
  | case4 s line rest hline hsize hfields =>
    cases hs <;> simp_all
  | case5 s line rest hline size hpos hsize hshort =>
    rcases hs.elim hline hsize with ⟨hzero, -⟩ | ⟨more, hmore, -⟩
    · exact absurd hzero hpos
    · rw [List.drop_of_length_le hshort.le] at hmore
      cases hmore
  | case6 s line rest hline size hpos hsize hfits more hmore ih =>
    rcases hs.elim hline hsize with ⟨hzero, -⟩ | ⟨more', hmore', hc⟩
    · exact absurd hzero hpos
    · cases hmore.symm.trans hmore'
      simpa using ih hc
  | case7 s line rest hline size hpos hsize hfits hnone =>
    rcases hs.elim hline hsize with ⟨hzero, -⟩ | ⟨more, hmore, -⟩
    · exact absurd hzero hpos
    · exact absurd hmore (hnone more)

/-- A body breaks off just where it is not complete by its framing. -/
theorem breaksOff_readBody_iff {s : Bytes} {f : Framing} :
    (∃ body, BreaksOff (readBody s f) body) ↔ ¬ f.Complete s := by
  constructor
  · rintro ⟨body, hbody⟩ hf
    apply absurd hbody.broken_mem
    cases f with
    | empty | untilClose => simp [readBody]
    | length n => simp [readBody, Nat.not_lt.mpr hf]
    | chunked => exact broken_not_mem_readChunks hf
  · intro hf
    cases f with
    | empty | untilClose => exact absurd trivial hf
    | length n =>
      rw [readBody, if_pos (Nat.not_le.mp hf)]
      exact ⟨s, [s], rfl, List.append_nil s⟩
    | chunked => exact breaksOff_readChunks hf

/-- What reads for some bytes come to where a body breaks off: the bytes that came, the failure, and
then nothing. -/
inductive BrokenReads : Bytes → List Outcome → Prop where
  | nil (body : Bytes) : BrokenReads body []
  | chunk {data rest : Bytes} {outcomes : List Outcome} : data ≠ [] →
      BrokenReads rest outcomes → BrokenReads (data ++ rest) (.ok (.bytes data) :: outcomes)
  | failed (later : Nat) : BrokenReads []
      (.error (.transfer .body) :: List.replicate later (.ok (.bytes [])))

/-- No read comes to nothing just if none follows the one that fails. -/
theorem BrokenReads.nothing_mem_iff {body : Bytes} {outcomes : List Outcome}
    (hr : BrokenReads body outcomes) :
    .ok (.bytes []) ∈ outcomes ↔ .error (.transfer .body) ∈ outcomes.dropLast := by
  induction hr with
  | nil => simp
  | @chunk data rest outcomes hdata hrest ih =>
    cases hrest with
    | nil => simpa using hdata
    | chunk | failed => simpa [hdata] using ih
  | failed later =>
    cases later with
    | zero => simp
    | succ later => simp [List.replicate_succ]

namespace ResponseConnection

variable {c : ResponseConnection} {body : Bytes} {len : Nat}

/-- The connection still has these bytes to give, and then to fail. -/
def Breaking (c : ResponseConnection) (body : Bytes) : Prop :=
  ∃ frames rest, c.frames = some frames ∧ BreaksOff frames rest ∧ c.pending ++ rest = body

/-- The connection has nothing to give. -/
def Spent (c : ResponseConnection) : Prop := c.pending = [] ∧ c.frames.getD [] = []

theorem breaking_ofResponse {r : Response} (hr : BreaksOff r.frames body) :
    (ofResponse r).Breaking body :=
  ⟨r.frames, body, rfl, hr, rfl⟩

theorem read_of_spent (hc : c.Spent) (hlen : 0 < len) :
    (c.read len).1 = .ok [] ∧ (c.read len).2.Spent := by
  obtain ⟨hpending, hframes⟩ := hc
  rw [read, if_neg (Nat.ne_of_gt hlen), if_neg (not_not_intro hpending)]
  cases hf : c.frames with
  | none => exact ⟨rfl, hpending, hframes⟩
  | some frames =>
    rw [hf] at hframes
    cases hframes
    exact ⟨rfl, hpending, rfl⟩

/-- A read of a body that breaks off gives some of the bytes that came, or there are none left and
it fails. -/
inductive Advances (body : Bytes) : Except DriverError Bytes × ResponseConnection → Prop where
  | data {data rest : Bytes} {c : ResponseConnection} : data ≠ [] → data ++ rest = body →
      c.Breaking rest → Advances body (.ok data, c)
  | fails {c : ResponseConnection} : body = [] → c.Spent →
      Advances body (.error (.transfer .body), c)

theorem advances_readFrames (hc : c.pending = []) (hlen : 0 < len) {frames : List Frame}
    (hf : BreaksOff frames body) : Advances body (c.readFrames len frames) := by
  obtain ⟨parts, rfl, rfl⟩ := hf
  induction parts with
  | nil => exact .fails rfl ⟨hc, rfl⟩
  | cons part parts ih =>
    cases part with
    | nil => exact ih
    | cons b part =>
      refine .data ?_ ?_ ⟨_, parts.flatten, rfl, ⟨parts, rfl, rfl⟩, rfl⟩
      · simpa using Nat.ne_of_gt hlen
      · rw [← List.append_assoc, List.take_append_drop]
        rfl

theorem advances_read (hc : c.Breaking body) (hlen : 0 < len) : Advances body (c.read len) := by
  obtain ⟨frames, rest, hframes, hbreaks, rfl⟩ := hc
  rw [read, if_neg (Nat.ne_of_gt hlen)]
  by_cases hp : c.pending = []
  · rw [if_neg (not_not_intro hp), hframes, hp]
    exact advances_readFrames hp hlen hbreaks
  · rw [if_pos hp]
    refine .data ?_ ?_ ⟨frames, rest, hframes, hbreaks, rfl⟩
    · simpa [Nat.ne_of_gt hlen] using hp
    · rw [← List.append_assoc, List.take_append_drop]

end ResponseConnection
end Http

/-- A read for some bytes. -/
def Operation.asksBytes : Operation → Bool
  | .read len => 0 < len
  | _ => false

/-- What the reads for some bytes have come to. -/
def readOutcomes (asked : List (Operation × Outcome)) : List Outcome :=
  asked.filterMap fun x => if x.1.asksBytes then some x.2 else none

namespace Slot

open Http Http.ResponseConnection

variable {C : Type} [Connection C] {f : ResponseConnection → C} {s : Slot C}
  {c : ResponseConnection} {limit : Nat} {body : Bytes}

theorem perform_read (hf : Connection.Carries f) (hc : s.connection = f c) (len : Nat) :
    s.perform limit (.read len) = ((c.read (min len limit)).1.map .bytes,
      { s with connection := f (c.read (min len limit)).2 }) := by
  rw [perform, hc, hf.read]
  rfl

theorem connection_of_not_asksBytes (hf : Connection.Carries f) (hc : s.connection = f c)
    {op : Operation} (hop : op.asksBytes = false) :
    (s.perform limit op).2.connection = f c := by
  cases op with
  | read len =>
    have hlen : len = 0 := by simpa [Operation.asksBytes] using hop
    rw [perform_read hf hc, hlen, Nat.zero_min]
    rfl
  | write data =>
    rw [perform, hc, hf.write]
    rfl
  | status | header | kind => exact hc

theorem readOutcomes_of_spent (hf : Connection.Carries f) (hlimit : 0 < limit)
    (hc : s.connection = f c) (hspent : c.Spent) (ops : List Operation) :
    ∃ n, readOutcomes (ops.zip (s.performAll limit ops).1) =
      List.replicate n (.ok (.bytes [])) := by
  induction ops generalizing s c with
  | nil => exact ⟨0, rfl⟩
  | cons op ops ih =>
    rw [performAll, List.zip_cons_cons, readOutcomes, List.filterMap_cons]
    cases hop : op.asksBytes with
    | false => exact ih (connection_of_not_asksBytes hf hc hop) hspent
    | true =>
      cases op with
      | read len =>
        have hlen : 0 < len := by simpa [Operation.asksBytes] using hop
        obtain ⟨hnothing, hspent⟩ := read_of_spent hspent (lt_min hlen hlimit)
        rw [perform_read hf hc, hnothing]
        obtain ⟨n, hn⟩ := ih (s := { s with connection := _ }) rfl hspent
        refine ⟨n + 1, ?_⟩
        rw [List.replicate_succ, ← hn]
        rfl
      | _ => cases hop

theorem brokenReads_performAll (hf : Connection.Carries f) (hlimit : 0 < limit)
    (hc : s.connection = f c) (hbreaking : c.Breaking body) (ops : List Operation) :
    BrokenReads body (readOutcomes (ops.zip (s.performAll limit ops).1)) := by
  induction ops generalizing s c body with
  | nil => exact .nil body
  | cons op ops ih =>
    rw [performAll, List.zip_cons_cons, readOutcomes, List.filterMap_cons]
    cases hop : op.asksBytes with
    | false => exact ih (connection_of_not_asksBytes hf hc hop) hbreaking
    | true =>
      cases op with
      | read len =>
        have hlen : 0 < len := by simpa [Operation.asksBytes] using hop
        have hadvances := advances_read hbreaking (lt_min hlen hlimit)
        rw [perform_read hf hc]
        generalize c.read (min len limit) = read at hadvances
        cases hadvances with
        | data hdata hbody hrest =>
          rw [← hbody]
          exact .chunk hdata (ih (s := { s with connection := _ }) rfl hrest)
        | fails hbody hspent =>
          obtain ⟨n, hn⟩ :=
            readOutcomes_of_spent (s := { s with connection := _ }) hf hlimit rfl hspent ops
          rw [hbody]
          have hfailed := BrokenReads.failed n
          rw [← hn] at hfailed
          exact hfailed
      | _ => cases hop

end Slot

namespace Http

variable {W C : Type} [Connection C]

/-- What the reads for some bytes come to under a handle whose body breaks off, with whatever else
is called before the handle is closed. The failure is told once, so a read comes to nothing just if
some read follows the one that fails. -/
theorem reads_of_broken_body {f : ResponseConnection → C} (hf : Connection.Carries f)
    {d : Driver W C} (hd : d.Reachable) (hlimit : 1 ≤ d.setup.config.maxTransfer) {h : Handle}
    {s : Slot C} (hs : d.table.get? h = some s) {r : Response} (hc : s.connection = f (.ofResponse r))
    {body : Bytes} (hr : BreaksOff r.frames body) {calls : List Call}
    (hn : ∀ c ∈ calls, ¬ c.Ends h) :
    let outcomes := readOutcomes (Call.answered h (calls.zip (Driver.run calls d).1))
    BrokenReads body outcomes ∧
      (.ok (.bytes []) ∈ outcomes ↔ .error (.transfer .body) ∈ outcomes.dropLast) := by
  intro outcomes
  obtain ⟨bound, hb⟩ := hd.exists_bounded
  obtain ⟨hanswered, -⟩ := Driver.run_perform hb hs hn
  have hreads : BrokenReads body outcomes := by
    change BrokenReads body (readOutcomes (Call.answered h (calls.zip (Driver.run calls d).1)))
    rw [hanswered]
    exact Slot.brokenReads_performAll hf hlimit hc (ResponseConnection.breaking_ofResponse hr) _
  exact ⟨hreads, hreads.nothing_mem_iff⟩

namespace CutShort

/-- Three bytes come of ten. -/
def answer : Bytes := .ofText "HTTP/1.1 200 OK\r\ncontent-length: 10\r\n\r\nabc"

def carrier : Carrier Unit := ⟨.upTo 100, fun _ r w => (Response.read? r.method answer, w)⟩

def driver : Driver Unit ResponseConnection :=
  (Driver.call (.openTarget "http://[::1]" "[\"GET\"]")
    (.new .default [backend carrier] ())).2

def response : Response :=
  ⟨200, ⟨[("content-length", .ofText "10")]⟩, readBody (.ofText "abc") (.length 10)⟩

def calls : List Call :=
  [.perform 1 (.read 2), .perform 1 .status, .perform 1 (.read 16), .perform 1 (.read 0),
    .perform 1 (.read 16), .isOpen 1]

theorem connection_driver :
    (driver.table.get? 1).map Slot.connection = some (.ofResponse response) := by
  decide +kernel

theorem not_complete : ¬ (Framing.length 10).Complete (.ofText "abc") := by
  change ¬ 10 ≤ (Bytes.ofText "abc").length
  decide +kernel

theorem reads_of_broken_body_of_calls :
    Connection.Carries (id : ResponseConnection → ResponseConnection) ∧ driver.Reachable ∧
      1 ≤ driver.setup.config.maxTransfer ∧ (∀ c ∈ calls, ¬ c.Ends 1) ∧
      ∃ s body, driver.table.get? 1 = some s ∧ s.connection = .ofResponse response ∧
        BreaksOff response.frames body ∧
        BrokenReads body
          (readOutcomes (Call.answered 1 (calls.zip (Driver.run calls driver).1))) := by
  have hf : Connection.Carries (id : ResponseConnection → ResponseConnection) :=
    ⟨fun _ _ => rfl, fun _ _ => rfl⟩
  have hd : driver.Reachable := .call _ (.new ..)
  have hlimit : 1 ≤ driver.setup.config.maxTransfer := by decide +kernel
  have hn : ∀ c ∈ calls, ¬ c.Ends 1 := by decide
  obtain ⟨s, hs, hc⟩ := Option.map_eq_some_iff.mp connection_driver
  obtain ⟨body, hbody⟩ := breaksOff_readBody_iff.mpr not_complete
  obtain ⟨hreads, -⟩ := reads_of_broken_body hf hd hlimit hs hc hbody hn
  exact ⟨hf, hd, hlimit, hn, s, body, hs, hc, hbody, hreads⟩

/-- A body of which seven bytes are missing is told to have come to its end. -/
theorem broken_body_ends :
    Response.read? "GET" answer = some response ∧
      (driver.table.get? 1).map Slot.connection = some (.ofResponse response) ∧
      ¬ (Framing.length 10).Complete (.ofText "abc") ∧
      (Driver.run [.perform 1 (.read 16), .perform 1 (.read 16), .perform 1 (.read 16)] driver).1 =
        [.ok (.bytes (.ofText "abc")), .error (.transfer .body), .ok (.bytes [])] := by
  refine ⟨?_, connection_driver, not_complete, ?_⟩
  · decide +kernel
  · decide +kernel

end CutShort
end Http
end GuestNet
