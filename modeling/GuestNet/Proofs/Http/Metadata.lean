import GuestNet.Proofs.Guest.Holding
import GuestNet.Proofs.Http.BrokenBody
import GuestNet.Proofs.Http.Headers
import GuestNet.Proofs.Http.Tokens

/-! The status and the headers of an answer. A handle that stands for an answer tells of the same
ones from its open to its close, whatever is read of the body and whatever else is called. -/
namespace GuestNet

/-- Connections of one type as connections of another, of which all is told alike. -/
structure Connection.CarriesAll {A B : Type} [Connection A] [Connection B] (f : A → B) : Prop
    extends Connection.Carries f where
  status : ∀ a : A, Connection.status (f a) = Connection.status a
  header : ∀ (name : String) (a : A), Connection.header name (f a) = Connection.header name a

theorem Connection.carriesAll_inr {A B : Type} [Connection A] [Connection B] :
    Connection.CarriesAll (Sum.inr : B → A ⊕ B) where
  read _ _ := rfl
  write _ _ := rfl
  status _ := rfl
  header _ _ := rfl

namespace Http

/-- What comes of looking for a name among headers: the first value, or a complaint about the
name. -/
inductive Lookup (headers : Headers) (name : String) : Outcome → Prop where
  | found {value : Bytes} {rest : List Bytes} : isHeaderName name.toList = true →
      headers.values (lowerCase name) = value :: rest → Lookup headers name (.ok (.bytes value))
  | absent : isHeaderName name.toList = true → headers.values (lowerCase name) = [] →
      Lookup headers name (.error (.headerNotFound name))
  | invalid : isHeaderName name.toList = false →
      Lookup headers name (.error (.badParams ("invalid header name '" ++ name ++ "'")))

/-- Outcomes under two names that are the same but for the name in a complaint. -/
inductive SameLookup (name name' : String) : Outcome → Outcome → Prop where
  | found (value : Bytes) : SameLookup name name' (.ok (.bytes value)) (.ok (.bytes value))
  | absent : SameLookup name name' (.error (.headerNotFound name)) (.error (.headerNotFound name'))
  | invalid : SameLookup name name' (.error (.badParams ("invalid header name '" ++ name ++ "'")))
      (.error (.badParams ("invalid header name '" ++ name' ++ "'")))

namespace Lookup

variable {headers : Headers} {name name' : String} {o o' : Outcome}

/-- Letter case does not tell names apart. -/
theorem same (hn : lowerCase name = lowerCase name') (ho : Lookup headers name o)
    (ho' : Lookup headers name' o') : SameLookup name name' o o' := by
  have hname := isHeaderName_congr hn
  cases ho with
  | found h hv =>
    rw [hname] at h
    rw [hn] at hv
    cases ho' with
    | found h' hv' =>
      cases hv.symm.trans hv'
      exact .found _
    | absent h' hv' => cases hv.symm.trans hv'
    | invalid h' => cases h.symm.trans h'
  | absent h hv =>
    rw [hname] at h
    rw [hn] at hv
    cases ho' with
    | found h' hv' => cases hv.symm.trans hv'
    | absent => exact .absent
    | invalid h' => cases h.symm.trans h'
  | invalid h =>
    rw [hname] at h
    cases ho' with
    | found h' | absent h' => cases h.symm.trans h'
    | invalid => exact .invalid

theorem unique (ho : Lookup headers name o) (ho' : Lookup headers name o') : o = o' := by
  cases ho.same rfl ho' with
  | found | absent | invalid => rfl

end Lookup

namespace ResponseConnection

theorem lookup_header (c : ResponseConnection) (name : String) :
    Lookup c.headers name ((c.header name).map .bytes) := by
  rw [header]
  by_cases hn : isHeaderName name.toList = true
  · rw [if_pos hn, Headers.get?_eq_head?]
    cases hv : c.headers.values (lowerCase name) with
    | nil => exact .absent hn hv
    | cons value rest => exact .found hn hv
  · rw [if_neg hn]
    exact .invalid (eq_false_of_ne_true hn)

theorem metadata_readFrames (c : ResponseConnection) (len : Nat) (frames : List Frame) :
    (c.readFrames len frames).2.status = c.status ∧
      (c.readFrames len frames).2.headers = c.headers := by
  fun_induction readFrames c len frames with
  | case1 | case2 | case4 => exact ⟨rfl, rfl⟩
  | case3 rest ih => exact ih

/-- What is read of a body and how it ends does not touch what came before it. -/
theorem metadata_read (c : ResponseConnection) (len : Nat) :
    (c.read len).2.status = c.status ∧ (c.read len).2.headers = c.headers := by
  rw [read]
  split
  · exact ⟨rfl, rfl⟩
  · split
    · exact ⟨rfl, rfl⟩
    · split
      · exact ⟨rfl, rfl⟩
      · exact metadata_readFrames c len _

end ResponseConnection

theorem exists_response_of_connect {V : Type} {net : Carrier V} {t : Target} {options : String}
    {config : Config} {v : V} {c : ResponseConnection}
    (hc : ((backend net).connect t options config v).1 = .ok c) : ∃ r, c = .ofResponse r := by
  simp only [backend, attempt] at hc
  split at hc
  · cases hc
  · cases hc
  · split at hc
    · cases hc
    · cases hc
      exact ⟨_, rfl⟩

end Http

open Http

namespace Slot

variable {C : Type} [Connection C] {f : ResponseConnection → C} {s : Slot C} {status : Nat}
  {headers : Headers}

/-- An answer with this status and these headers, of which any part of the body may be read. -/
def Answers (f : ResponseConnection → C) (status : Nat) (headers : Headers) (s : Slot C) : Prop :=
  ∃ c, s.connection = f c ∧ c.status = status ∧ c.headers = headers

namespace Answers

theorem perform (hf : Connection.Carries f) (hs : s.Answers f status headers) (limit : Nat)
    (op : Operation) : (s.perform limit op).2.Answers f status headers := by
  obtain ⟨c, hc, hstatus, hheaders⟩ := hs
  cases op with
  | read len =>
    obtain ⟨hstatus', hheaders'⟩ := c.metadata_read (min len limit)
    rw [perform_read hf hc]
    exact ⟨_, rfl, hstatus'.trans hstatus, hheaders'.trans hheaders⟩
  | write | status | header | kind =>
    exact ⟨c, connection_of_not_asksBytes hf hc rfl, hstatus, hheaders⟩

theorem perform_status (hf : Connection.CarriesAll f) (hs : s.Answers f status headers)
    (limit : Nat) : (s.perform limit .status).1 = .ok (.number status) := by
  obtain ⟨c, hc, rfl, -⟩ := hs
  rw [Slot.perform, hc, hf.status]
  rfl

theorem lookup (hf : Connection.CarriesAll f) (hs : s.Answers f status headers) (limit : Nat)
    (name : String) : Lookup headers name (s.perform limit (.header name)).1 := by
  obtain ⟨c, hc, -, rfl⟩ := hs
  rw [Slot.perform, hc, hf.header]
  exact c.lookup_header name

end Answers
end Slot

namespace Driver

variable {W C : Type} [Connection C] {d : Driver W C} {h : Handle}

/-- An open over HTTP binds the handle that it returns to the answer. -/
theorem get?_openTarget_http {V : Type} {f : ResponseConnection → C} {net : Carrier V} {get : W → V}
    {put : W → V → W} {raw options : String} {t : Target}
    (hb : d.setup.backendFor d.table raw = .ok (t, (backend net).embed f get put))
    (ho : (call (.openTarget raw options) d).1 = .ok (.handle h)) : ∃ r,
      ((backend net).connect t options d.setup.config (get d.world)).1 = .ok (.ofResponse r) ∧
        ∃ s, (call (.openTarget raw options) d).2.table.get? h = some s ∧
          s.connection = f (.ofResponse r) := by
  obtain ⟨_, hembed, hs⟩ := get?_openTarget hb ho
  obtain ⟨c, hc, rfl⟩ := exists_of_map_eq_ok hembed
  obtain ⟨r, rfl⟩ := exists_response_of_connect hc
  exact ⟨r, hc, _, hs, rfl⟩

end Driver

/-- A guest has a value in its buffer as far as it fits, and in its slot how many bytes of it these
are. Nothing else in its memory is different. -/
structure Memory.Received (value : Bytes) (buffer len out : UInt32) (m m' : Memory) : Prop where
  size : m'.size = m.size
  count : m'.word out = min len.toNat value.length
  /-- Where the slot and the buffer overlap, the number stays. -/
  byte? : ∀ i, m'.byte? i =
    (byteAt? out.toNat (wordBytes (.ofNat (min len.toNat value.length))) i).or
      ((byteAt? buffer.toNat (value.take len.toNat) i).or (m.byte? i))
  slice : out.toNat + 4 ≤ buffer.toNat ∨
      buffer.toNat + min len.toNat value.length ≤ out.toNat →
    m'.slice buffer.toNat (buffer.toNat + min len.toNat value.length) = value.take len.toNat

namespace GuestCall

variable {W C : Type} [Connection C] {d : Driver W C} {h : Handle} {m : Memory}
  {name nameLen buffer len out : UInt32}

theorem received_of_header {value : Bytes} {m' : Memory} (hsize : m'.size = m.size)
    (hbyte : ∀ i, m'.byte? i =
      ((GuestCall.header h name nameLen buffer len out).slotByte? (.bytes value) i).or
        (((GuestCall.header h name nameLen buffer len out).bufferByte? (.bytes value) i).or
          (m.byte? i))) : Memory.Received value buffer len out m m' := by
  have hnumber : (GuestCall.header h name nameLen buffer len out).number (.bytes value) =
      min len.toNat value.length := List.length_take
  have hlt : min len.toNat value.length < 2 ^ 32 :=
    Nat.lt_of_le_of_lt (min_le_left ..) len.toNat_lt
  have hword := word_of_bytes rfl (by rwa [hnumber]) hbyte
  rw [hnumber] at hword
  refine ⟨hsize, hword, fun i => ?_, fun ha => ?_⟩
  · rw [← hnumber]
    exact hbyte i
  · have hdelivered : (GuestCall.header h name nameLen buffer len out).delivered (.bytes value) =
        value.take len.toNat := rfl
    rw [← List.length_take, ← hdelivered] at ha ⊢
    exact slice_of_bytes rfl rfl ha hbyte

/-- A guest that asks for a header in good order is told why there is none, or has the value. -/
theorem run_header (hh : d.isOpen h = true)
    (hv : (GuestCall.header h name nameLen buffer len out).Valid m) :
    let asked := (Driver.call (.perform h (.header (m.text (name, nameLen)))) d).1
    let run := (GuestCall.header h name nameLen buffer len out).run m d
    (∀ e, asked = .error e → run.1 = e.code ∧ run.2.1 = m) ∧
      ∀ value, asked = .ok (.bytes value) →
        run.1 = .success ∧ Memory.Received value buffer len out m run.2.1 := by
  intro asked run
  have hresolves : (GuestCall.header h name nameLen buffer len out).Resolves d := by
    rintro k ⟨⟩
    exact hh
  have hrequest := (checks_request m _ hresolves).ok hv
  rcases run_of_gives hrequest fun hreply => Driver.reply_of_perform hreply with
    ⟨e, he, hrun⟩ | ⟨reply, m', hreply, hrun, hsize, hbyte⟩
  · refine ⟨fun e' he' => ?_, fun value hvalue => ?_⟩
    · cases he.symm.trans he'
      exact ⟨congrArg Prod.fst hrun, congrArg (·.2.1) hrun⟩
    · cases he.symm.trans hvalue
  · refine ⟨fun e he => ?_, fun value hvalue => ?_⟩
    · cases hreply.symm.trans he
    · cases hreply.symm.trans hvalue
      refine ⟨congrArg Prod.fst hrun, ?_⟩
      have hm : run.2.1 = m' := congrArg (·.2.1) hrun
      rw [hm]
      exact received_of_header hsize hbyte

end GuestCall

namespace Driver

variable {W C : Type} [Connection C] {d : Driver W C} {bound : Nat} {h : Handle} {s : Slot C}
  {status : Nat} {headers : Headers} {f : ResponseConnection → C}

/-- What the host and its guests are told of an answer under its handle. -/
structure Tells (status : Nat) (headers : Headers) (h : Handle) (d : Driver W C) : Prop where
  status : (call (.perform h .status) d).1 = .ok (.number status)
  header : ∀ name, Lookup headers name (call (.perform h (.header name)) d).1
  guest : ∀ {name nameLen buffer len out : UInt32} {m : Memory},
    (GuestCall.header h name nameLen buffer len out).Valid m →
      let asked := (call (.perform h (.header (m.text (name, nameLen)))) d).1
      let run := (GuestCall.header h name nameLen buffer len out).run m d
      (∀ e, asked = .error e → run.1 = e.code ∧ run.2.1 = m) ∧
        ∀ value, asked = .ok (.bytes value) →
          run.1 = .success ∧ Memory.Received value buffer len out m run.2.1

theorem tells_of_answers (hf : Connection.CarriesAll f) (hs : d.table.get? h = some s)
    (ha : s.Answers f status headers) : d.Tells status headers h where
  status := by
    rw [call_perform hs]
    exact ha.perform_status hf d.setup.config.maxTransfer
  header name := by
    rw [call_perform hs]
    exact ha.lookup hf d.setup.config.maxTransfer name
  guest hv := GuestCall.run_header (HandleTable.contains_eq_true_iff.mpr ⟨s, hs⟩) hv

/-- An answer tells the same of itself until its handle is closed, whatever the host and its guests
do. -/
theorem tells_takeAll (hf : Connection.CarriesAll f) (hb : d.table.Bounded bound)
    (hs : d.table.get? h = some s) (ha : s.Answers f status headers) {acts : List Driver.Act}
    (hacts : ∀ e ∈ (Act.takeAll acts d).1, ¬ e.Ends h) :
    (Act.takeAll acts d).2.Tells status headers h := by
  have hkept : ∀ (s : Slot C) (limit : Nat) (op : Operation), s.Answers f status headers →
      (s.perform limit op).2.Answers f status headers :=
    fun _ limit op hs => hs.perform hf.toCarries limit op
  obtain ⟨s', hs', ha'⟩ := Act.get?_takeAll hkept hb hs ha hacts
  exact tells_of_answers hf hs' ha'

end Driver

namespace Http

open Driver

/-- An open over HTTP binds its handle to an answer. Whatever the host and its guests do until the
handle is closed, they are told the same status under it and the same of every header as at first.
Names are looked for in any letter case, the first value of a header counts, and a guest gets what
fits of it. From the close on nothing is told under the handle until an open returns it. -/
theorem metadata_constant_until_close {W C : Type} [Connection C] {f : ResponseConnection → C}
    (hf : Connection.CarriesAll f) (config : Config) (backends : List (Backend W C)) (world : W)
    (before : List Driver.Act) :
    let d := (Act.takeAll before (.new config backends world)).2
    (∀ (V : Type) (net : Carrier V) (get : W → V) (put : W → V → W) (raw options : String)
      (t : Target) (h : Handle),
      d.setup.backendFor d.table raw = .ok (t, (backend net).embed f get put) →
      (call (.openTarget raw options) d).1 = .ok (.handle h) →
      ∃ r, ((backend net).connect t options d.setup.config (get d.world)).1 =
          .ok (.ofResponse r) ∧
        ∃ s, (call (.openTarget raw options) d).2.table.get? h = some s ∧
          s.connection = f (.ofResponse r)) ∧
      ∀ (h : Handle) (s : Slot C) (c : ResponseConnection),
        d.table.get? h = some s → s.connection = f c →
        ∀ acts : List Driver.Act, (∀ e ∈ (Act.takeAll acts d).1, ¬ e.Ends h) →
          let d' := (Act.takeAll acts d).2
          d'.Tells c.status c.headers h ∧
          (call (.perform h .status) d').1 = (call (.perform h .status) d).1 ∧
          (∀ name, (call (.perform h (.header name)) d').1 =
            (call (.perform h (.header name)) d).1) ∧
          (∀ name name', lowerCase name = lowerCase name' → SameLookup name name'
            (call (.perform h (.header name)) d').1 (call (.perform h (.header name')) d').1) ∧
          ∀ (a : Driver.Act) (later : List Driver.Act), (a.take d').1.Ends h →
            (∀ e ∈ (Act.takeAll later (a.take d').2).1, e.issued? ≠ some h) →
              (Act.takeAll later (a.take d').2).2.Dead h := by
  intro d
  have hb : d.table.Bounded _ :=
    Act.bounded_takeAll (HandleTable.bounded_new config.maxHandles) before
  refine ⟨fun V net get put raw options t h => get?_openTarget_http, ?_⟩
  intro h s c hs hc acts hacts d'
  have hd : d.Tells c.status c.headers h := tells_of_answers hf hs ⟨c, hc, rfl, rfl⟩
  have hd' : d'.Tells c.status c.headers h := tells_takeAll hf hb hs ⟨c, hc, rfl, rfl⟩ hacts
  refine ⟨hd', hd'.status.trans hd.status.symm, fun name => ?_, fun name name' hn => ?_, ?_⟩
  · exact (hd'.header name).unique (hd.header name)
  · exact (hd'.header name).same hn (hd'.header name')
  · intro a later ha hlater
    exact Act.dead_of_ends (Act.bounded_takeAll hb acts) ha hlater

namespace Letterhead

/-- Three bytes come of ten, and one header has two values. -/
def answer : Bytes :=
  .ofText ("HTTP/1.1 404 Not Found\r\nSet-Cookie: a=1\r\nset-cookie: b=2\r\n" ++
    "content-length: 10\r\n\r\nabc")

def carrier : Carrier Unit := ⟨.upTo 100, fun _ r w => (Response.read? r.method answer, w)⟩

def backends : List (Backend Unit (Stream.Socket ⊕ ResponseConnection)) :=
  [(backend carrier).embed .inr id fun _ w => w]

def driver : Driver Unit (Stream.Socket ⊕ ResponseConnection) :=
  (Act.takeAll [.host (.openTarget "http://[::1]" "[\"GET\"]")] (.new .default backends ())).2

def headers : Headers :=
  ⟨[("set-cookie", .ofText "a=1"), ("set-cookie", .ofText "b=2"), ("content-length", .ofText "10")]⟩

def response : Response := ⟨404, headers, readBody (.ofText "abc") (.length 10)⟩

/-- The body is read past its failure and past what looks like its end, a write is turned away, the
buffer of a guest ends outside its memory, and another handle is opened and closed. -/
def acts : List Driver.Act :=
  [.host (.perform 1 (.read 2)), .host (.perform 1 (.read 16)), .host (.perform 1 (.read 16)),
    .host (.perform 1 (.read 16)), .host (.perform 1 (.write [1])),
    .guest ⟨.zeros 8, true⟩ (.read 1 4 8 0), .host (.openTarget "http://[::1]" "[\"GET\"]"),
    .host (.close 2)]

/-- A guest that has the name at the start of its memory and room for two bytes. -/
def memory : Memory := .ofBytes (Bytes.ofText "SET-COOKIE" ++ List.replicate 6 0)

theorem connection_driver :
    (driver.table.get? 1).map Slot.connection = some (.inr (.ofResponse response)) := by
  decide +kernel

theorem text_memory : memory.text (0, 10) = "SET-COOKIE" := by
  decide +kernel

theorem metadata_constant_until_close_of_acts :
    let d := (Act.takeAll acts driver).2
    let run := (GuestCall.header 1 0 10 14 2 10).run memory d
    Connection.CarriesAll
        (Sum.inr : ResponseConnection → Stream.Socket ⊕ ResponseConnection) ∧
      (∀ e ∈ (Act.takeAll acts driver).1, ¬ e.Ends 1) ∧
      (call (.perform 1 .status) d).1 = .ok (.number 404) ∧
      (call (.perform 1 (.header "SET-COOKIE")) d).1 = .ok (.bytes (.ofText "a=1")) ∧
      run.1 = .success ∧ Memory.Received (.ofText "a=1") 14 2 10 memory run.2.1 ∧
      (call (.close 1) d).2.Dead 1 := by
  intro d run
  have hf : Connection.CarriesAll
      (Sum.inr : ResponseConnection → Stream.Socket ⊕ ResponseConnection) :=
    Connection.carriesAll_inr
  have hacts : ∀ e ∈ (Act.takeAll acts driver).1, ¬ e.Ends 1 :=
    Act.not_ends_takeAll (by decide) driver
  have hv : (GuestCall.header 1 0 10 14 2 10).Valid memory := by decide +kernel
  obtain ⟨s, hs, hc⟩ := Option.map_eq_some_iff.mp connection_driver
  obtain ⟨-, hconstant⟩ := metadata_constant_until_close hf .default backends ()
    [.host (.openTarget "http://[::1]" "[\"GET\"]")]
  obtain ⟨htells, -, hheader, -, hdead⟩ := hconstant 1 s _ hs hc acts hacts
  have hfound : (call (.perform 1 (.header "SET-COOKIE")) driver).1 =
      .ok (.bytes (.ofText "a=1")) := by
    decide +kernel
  have hasked := (hheader "SET-COOKIE").trans hfound
  obtain ⟨-, hreceived⟩ := htells.guest hv
  rw [text_memory] at hreceived
  obtain ⟨hcode, hreceived⟩ := hreceived _ hasked
  have hclose : (call (.close 1) d).1 = .ok .nothing := by decide +kernel
  have hends : ((Act.host (.close 1)).take d).1.Ends 1 := by
    change (Entry.host (.close 1) (call (.close 1) d).1).Ends 1
    rw [hclose]
    rfl
  exact ⟨hf, hacts, htells.status, hasked, hcode, hreceived,
    hdead (.host (.close 1)) [] hends fun _ he => absurd he List.not_mem_nil⟩

end Letterhead
end Http
end GuestNet
