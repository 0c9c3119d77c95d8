import GuestNet.Scripted.World

/-! Overlapping calls in a world of scripts. Calls move on in the order in which they become able
to, each as far as it can; a scripted backend holds calls back until there are permits. -/
namespace GuestNet.Scripted

open Overlap

/-- Where calls wait for permits of a backend, first come, first served. -/
structure Gate where
  held : List Access
  permits : Nat
  line : List CallId
  /-- The calls that got a permit in the line and have not gone on yet. -/
  passed : List CallId

namespace Gate

def new (held : List Access) : Gate := ⟨held, 0, [], []⟩

/-- Whether a call may go on, which uses a permit up. -/
def arrive (g : Gate) (id : CallId) : Bool × Gate :=
  if id ∈ g.passed then (true, { g with passed := g.passed.erase id })
  else if 0 < g.permits then (true, { g with permits := g.permits - 1 })
  else if id ∈ g.line then (false, g)
  else (false, { g with line := g.line ++ [id] })

/-- Adds permits and tells which calls got one. -/
def permit (g : Gate) (n : Nat) : List CallId × Gate :=
  let lucky := g.line.take n
  (lucky, { g with
    permits := g.permits + (n - lucky.length)
    line := g.line.drop n
    passed := g.passed ++ lucky })

end Gate

structure Session where
  machine : Machine World AnyLink
  /-- The gates of the scripted backends, by their names. -/
  gates : List (String × Gate)
  /-- The calls that may be able to move, in the order of their turns. -/
  ready : List CallId

namespace Session

def new (config : Config) (choices : List BackendChoice) (peers : Peers) : Session where
  machine := .new config (backends choices) ⟨[], peers⟩
  gates := (scripts choices).mapIdx fun i s => (toString i, .new s.held)
  ready := []

def access? : Operation → Option Access
  | .read _ => some .read
  | .write _ => some .write
  | _ => none

/-- The scripted backend behind a connection. -/
def backendName? : AnyLink → Option String
  | .inl l => some l.origin.backend
  | .inr _ => none

def socket? : AnyLink → Option Stream.Socket
  | .inr (.inr socket) => some socket
  | _ => none

/-- What a call is about to have a backend do, and which. -/
def pendingAccess? (m : Machine World AnyLink) (id : CallId) : Option (String × Access) :=
  let ofCell (cell : CellId) (a : Access) : Option (String × Access) :=
    (m.cells[cell]?.bind fun c => backendName? c.slot.connection).map (·, a)
  match m.calls[id]? with
  | some (.connecting _ _ backend) => some (backend.name, .connect)
  | some (.performing cell op) => (access? op).bind (ofCell cell)
  | some (.closing cell _) => ofCell cell .close
  | _ => none

/-- A stream without anything to report makes a call wait that may. -/
def isIdle (s : Stream.Socket) : Operation → Bool
  | .read _ => !s.nonblocking && !s.canRead
  | .write _ => !s.nonblocking && !s.canWrite
  | _ => false

/-- The call waits for a peer. -/
def awaitsPeer (m : Machine World AnyLink) (id : CallId) : Bool :=
  match m.calls[id]? with
  | some (.connecting target options backend) =>
    m.world.peers.stalls m.setup.config backend.name target options
  | some (.performing cell op) =>
    (m.cells[cell]?.bind fun c => socket? c.slot.connection).any (isIdle · op)
  | _ => false

/-- Whether a call may go on. -/
def pass (s : Session) (id : CallId) : Bool × Session :=
  if awaitsPeer s.machine id then (false, s)
  else
    match pendingAccess? s.machine id with
    | none => (true, s)
    | some (backend, access) =>
      match s.gates.lookup backend with
      | none => (true, s)
      | some gate =>
        if access ∈ gate.held then
          let (may, gate) := gate.arrive id
          (may, { s with
            gates := s.gates.map fun g => if g.1 = backend then (backend, gate) else g })
        else (true, s)

/-- The calls whose turn at a cell has come. -/
def woken (before after : Array (Cell AnyLink)) : List CallId :=
  (before.zip after).toList.flatMap fun (a, b) =>
    if a.line.head? = b.line.head? then [] else b.line.head?.toList

/-- Takes a step of the call whose turn it is. A call that cannot move gives its turn up. -/
def turn (s : Session) : Session :=
  match s.ready with
  | [] => s
  | id :: rest =>
    let (may, s) := s.pass id
    match if may then s.machine.step id else none with
    | none => { s with ready := rest }
    | some m =>
      let others := (woken s.machine.cells m.cells).filter (· ≠ id)
      { s with machine := m, ready := id :: rest ++ others }

def turns : Nat → Session → Session
  | 0, s => s
  | n + 1, s => if s.ready = [] then s else turns n s.turn

/-- More turns than all calls together can take. A call needs a few steps, and one that closes
everything a few for every cell; each step wakes one other call at most. -/
def turnLimit (s : Session) : Nat :=
  s.ready.length + 4 * (s.machine.calls.size + 1) * (8 + 8 * (s.machine.cells.size + 1))

/-- Lets every call go on as far as it can. -/
def settle (s : Session) : Session := s.turns s.turnLimit

/-- Begins a call and lets everything settle. -/
def start (s : Session) (c : Call) : CallId × Session :=
  let id := s.machine.calls.size
  (id, settle { s with machine := s.machine.begin c, ready := s.ready ++ [id] })

def outcome? (s : Session) (id : CallId) : Option Outcome :=
  s.machine.calls[id]?.bind Stage.outcome?

/-- A call that does not come to an end is answered as one to repeat. -/
def call (c : Call) (s : Session) : Outcome × Session :=
  let (id, s) := s.start c
  ((s.outcome? id).getD (.error .tryAgain), s)

instance : Watched Session where
  maxTransfer s := s.machine.setup.config.maxTransfer
  isOpen s h := s.machine.table.contains h
  openHandles s := s.machine.table.size
  call := call
  setup s := s.machine.setup
  world s := s.machine.world
  links s := s.machine.cells.toList.map fun c => (c.slot.connection, c.phase = .released)

/-- Adds permits of a backend and lets everything settle. -/
def permit (s : Session) (backend : String) (n : Nat) : Session :=
  match s.gates.lookup backend with
  | none => s
  | some gate =>
    let (lucky, gate) := gate.permit n
    settle { s with
      gates := s.gates.map fun g => if g.1 = backend then (backend, gate) else g
      ready := s.ready ++ lucky }

/-- Lets every call try again. -/
def wake (s : Session) : Session := settle { s with ready := List.range s.machine.calls.size }

def mapPeers (s : Session) (f : Peers → Peers) : Session :=
  { s with machine := { s.machine with
    world := { s.machine.world with peers := f s.machine.world.peers } } }

/-- Changes the stream of a number. -/
def mapSocket (s : Session) (number : Nat) (f : Stream.Socket → Stream.Socket) : Session :=
  let change : AnyLink → AnyLink
    | .inr (.inr socket) => .inr (.inr (if socket.number = number then f socket else socket))
    | l => l
  { s with machine := { s.machine with cells := s.machine.cells.map fun c =>
    { c with slot := { c.slot with connection := change c.slot.connection } } } }

/-- The stream of a number, with whether it was let go of. -/
def findSocket? (s : Session) (number : Nat) : Option (Stream.Socket × Bool) :=
  (Watched.links s).findSome? fun (l, gone) =>
    ((socket? l).filter (·.number = number)).map (·, gone)

end Session
end GuestNet.Scripted
