import GuestNet.Connection

/-! One end of a connected stream, with what the other end has done to it so far. -/
namespace GuestNet.Stream

/-- What is left of the other end. -/
inductive Peer where
  /-- It sends and receives. -/
  | present
  /-- It sends no more and still receives. -/
  | finished
  /-- It is closed, and this is not known here before something is written. -/
  | closed
  /-- The stream is broken, and this has not been reported. -/
  | reset
  /-- The stream is broken. -/
  | gone
deriving DecidableEq, Repr

structure Socket where
  number : Nat
  nonblocking : Bool
  peer : Peer
  /-- What has arrived and was not read. -/
  arrived : Bytes
  /-- What was written and the peer has not taken. -/
  sent : Bytes
  isClosed : Bool
deriving DecidableEq, Repr

namespace Socket

/-- How many bytes may be on their way to the peer. -/
def capacity : Nat := 4194304

def connected (number : Nat) (nonblocking : Bool) : Socket :=
  ⟨number, nonblocking, .present, [], [], false⟩

/-- A read has something to report: bytes, the end, or a failure. -/
def canRead (s : Socket) : Bool := s.arrived ≠ [] || s.peer ≠ .present

def canWrite (s : Socket) : Bool :=
  match s.peer with
  | .present | .finished => s.sent.length < capacity
  | _ => true

/-- A read that finds nothing has to be repeated. -/
def read (len : Nat) (s : Socket) : Except DriverError Bytes × Socket :=
  if s.arrived ≠ [] then (.ok (s.arrived.take len), { s with arrived := s.arrived.drop len })
  else
    match s.peer with
    | .present => if s.nonblocking then (.error .tryAgain, s) else (.ok [], s)
    | .reset => (.error (.io .connectionReset), { s with peer := .gone })
    | _ => (.ok [], s)

/-- Writes what there is room for. -/
def send (data : Bytes) (s : Socket) : Except DriverError Nat × Socket :=
  let room := capacity - s.sent.length
  if s.nonblocking ∧ room = 0 then (.error .tryAgain, s)
  else (.ok (min data.length room), { s with sent := s.sent ++ data.take room })

def write (data : Bytes) (s : Socket) : Except DriverError Nat × Socket :=
  match s.peer with
  | .present => s.send data
  | .finished => s.send data
  | .closed => (.ok data.length, { s with peer := .gone })
  | .reset => (.error (.io .connectionReset), { s with peer := .gone })
  | .gone => (.error (.io .brokenPipe), s)

/-- That the peer is gone already is no failure. -/
def close (s : Socket) : Except DriverError Unit × Socket := (.ok (), { s with isClosed := true })

instance : Connection Socket where
  kind _ := .stream
  read := read
  write := write
  close := close

/-- The peer sends bytes. -/
def receive (data : Bytes) (s : Socket) : Socket :=
  if s.peer = .present then { s with arrived := s.arrived ++ data } else s

/-- The peer takes bytes. -/
def deliver (len : Nat) (s : Socket) : Bytes × Socket :=
  (s.sent.take len, { s with sent := s.sent.drop len })

/-- The peer ends its direction. -/
def finish (s : Socket) : Socket :=
  if s.peer = .present then { s with peer := .finished } else s

/-- The peer closes. That resets the stream if it leaves bytes untaken. -/
def leave (s : Socket) : Socket :=
  if s.sent = [] then { s with peer := .closed } else { s with peer := .reset, sent := [] }

/-- The peer breaks the stream. -/
def breakOff (s : Socket) : Socket := { s with peer := .reset, sent := [] }

end Socket
end GuestNet.Stream
