import GuestNet.Http.Exchange
import GuestNet.Http.Message
import GuestNet.Scripted.Script
import GuestNet.Stream.Dial
import GuestNet.Stream.Socket

/-! The other ends of streams and exchanges: peers on ports of the local host that do what they are
told. -/
namespace GuestNet.Scripted

inductive PeerKind where
  /-- Nobody listens. -/
  | absent
  /-- Connecting to it never comes to an end. -/
  | stuck
  | stream
  /-- It gives these answers, one to each request. -/
  | http (answers : List Bytes)
deriving DecidableEq, Repr

structure Peer where
  port : Nat
  kind : PeerKind
  /-- What was asked, the first request first. -/
  requests : List Http.Request
  /-- The numbers of streams that wait to be accepted. -/
  backlog : List Nat
deriving DecidableEq, Repr

structure Peers where
  peers : List Peer
  /-- How many streams were connected. -/
  dialed : Nat
  /-- The streams that were accepted, in this order. -/
  accepted : List Nat
deriving DecidableEq, Repr

namespace Peers

def empty : Peers := ⟨[], 0, []⟩

/-- The peers of these kinds on ports from a first one on. -/
def ofKinds (firstPort : Nat) (kinds : List PeerKind) : Peers where
  peers := kinds.mapIdx fun i kind => ⟨firstPort + i, kind, [], []⟩
  dialed := 0
  accepted := []

def localHost : List String := ["127.0.0.1", "localhost"]

def find? (p : Peers) (host : String) (port : Nat) : Option Peer :=
  if host ∈ localHost then p.peers.find? (·.port = port) else none

def replace (p : Peers) (peer : Peer) : Peers :=
  { p with peers := p.peers.map fun q => if q.port = peer.port then peer else q }

def ofUrl? (p : Peers) (url : Url) : Option Peer :=
  match url.hostText?, url.effectivePort? with
  | some host, some port => p.find? host port
  | _, _ => none

/-- Peers do not speak over protected exchanges. -/
def send (_limits : Http.Limits) (r : Http.Request) (p : Peers) : Option Http.Response × Peers :=
  match p.ofUrl? r.url with
  | some peer =>
    match peer.kind, decide (r.url.scheme = "http") with
    | .http answers, true =>
      let peer := { peer with kind := .http answers.tail, requests := peer.requests ++ [r] }
      (answers.head?.bind (Http.Response.read? r.method), p.replace peer)
    | _, _ => (none, p)
  | none => (none, p)

def carrier : Http.Carrier Peers := ⟨.upTo 24576, send⟩

def dial (a : Stream.Address) (_limit : Option UInt64) (o : TcpOptions) (p : Peers) :
    Stream.Dialed Stream.Socket × Peers :=
  match p.find? a.host a.port with
  | none => (.failed .connectionRefused, p)
  | some peer =>
    match peer.kind with
    | .absent => (.failed .connectionRefused, p)
    | .stuck => (.late, p)
    | _ =>
      let p := p.replace { peer with backlog := peer.backlog ++ [p.dialed] }
      (.connected (.connected p.dialed o.nonblocking), { p with dialed := p.dialed + 1 })

def dialer : Stream.Dialer Peers Stream.Socket := ⟨dial⟩

/-- Whether opening a target never ends. A limit of no time ends it. -/
def stalls (p : Peers) (config : Config) (backend : String) (target : Target) (options : String) :
    Bool :=
  let waits (limit : Option UInt64) : Bool := limit ≠ some 0
  let isStuck (peer : Option Peer) : Bool := peer.any (·.kind = .stuck)
  if backend = "tcp" then
    match Stream.readOptions options, Stream.Address.parse target.address with
    | .ok o, .ok a => isStuck (p.find? a.host a.port) && waits (config.connectTimeout o.connectTimeout)
    | _, _ => false
  else if backend = "http" then
    match Http.Request.plan carrier.room target options with
    | some (.ok (o, r)) =>
      isStuck (p.ofUrl? r.url) && waits (config.connectTimeout o.connectTimeout) &&
        waits o.readTimeout
    | _ => false
  else false

/-- The next stream that a peer accepts gets the next number. -/
def accept (p : Peers) (port : Nat) : Option Nat × Peers :=
  match p.peers.find? (·.port = port) with
  | some peer =>
    match peer.backlog with
    | [] => (none, p)
    | number :: rest =>
      let p := p.replace { peer with backlog := rest }
      (some p.accepted.length, { p with accepted := p.accepted ++ [number] })
  | none => (none, p)

end Peers
end GuestNet.Scripted
