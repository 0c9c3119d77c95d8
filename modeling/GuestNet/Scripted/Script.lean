import GuestNet.Backend
import GuestNet.Http.Body

/-! Backends that follow a script, to rehearse a driver without a network. What a connection was
made with and what was done to it is on record. -/
namespace GuestNet.Scripted

/-- What a backend does for a call. -/
inductive Access where
  | connect
  | read
  | write
  | close
deriving DecidableEq, Repr

/-- Failures by the number of the access, from zero. -/
abbrev Faults := List (Option DriverError)

def Faults.at? (f : Faults) (n : Nat) : Option DriverError := f[n]?.join

structure Script where
  schemes : List String
  kind : ConnectionKind
  /-- What there is to read. -/
  payload : Bytes
  /-- The most bytes that one read gives. -/
  readLimit : Option Nat
  /-- The most bytes that one write takes. -/
  writeLimit : Option Nat
  connectFaults : Faults
  readFaults : Faults
  writeFaults : Faults
  /-- By the number of the connection. -/
  closeFaults : Faults
  /-- Connections answer with this instead of the payload. -/
  response : Option Http.Response
  /-- What has to wait for a permit. -/
  held : List Access

/-- What a connection was made with. -/
structure Origin where
  backend : String
  number : Nat
  target : Target
  options : String
  maxTransfer : Nat

inductive Medium where
  | payload (rest : Bytes)
  | response (connection : Http.ResponseConnection)

structure Link where
  script : Script
  origin : Origin
  medium : Medium
  written : Bytes
  reads : Nat
  writes : Nat
  closes : Nat
  /-- How many bytes an answer still gave after its close, and its status then. -/
  afterClose : Option (Nat × Nat)

namespace Link

def connect (script : Script) (origin : Origin) : Link where
  script := script
  origin := origin
  medium :=
    match script.response with
    | none => .payload script.payload
    | some r => .response (.ofResponse r)
  written := []
  reads := 0
  writes := 0
  closes := 0
  afterClose := none

def kind (l : Link) : ConnectionKind :=
  match l.medium with
  | .payload _ => l.script.kind
  | .response _ => .http

/-- The length of a transfer under a limit. -/
def within (limit : Option Nat) (len : Nat) : Nat := limit.elim len (min len)

def read (len : Nat) (l : Link) : Except DriverError Bytes × Link :=
  match l.medium with
  | .response c =>
    let (r, c) := Connection.read len c
    (r, { l with medium := .response c })
  | .payload rest =>
    let counted := { l with reads := l.reads + 1 }
    match l.script.readFaults.at? l.reads with
    | some e => (.error e, counted)
    | none =>
      let n := within l.script.readLimit len
      (.ok (rest.take n), { counted with medium := .payload (rest.drop n) })

def write (data : Bytes) (l : Link) : Except DriverError Nat × Link :=
  match l.medium with
  | .response c =>
    let (r, c) := Connection.write data c
    (r, { l with medium := .response c })
  | .payload _ =>
    let counted := { l with writes := l.writes + 1 }
    match l.script.writeFaults.at? l.writes with
    | some e => (.error e, counted)
    | none =>
      let n := within l.script.writeLimit data.length
      (.ok n, { counted with written := l.written ++ data.take n })

/-- What a short read of a closed answer gives. -/
def remainder (c : Http.ResponseConnection) : Nat × Nat :=
  match (c.read 4).1 with
  | .ok data => (data.length, c.status)
  | .error _ => (0, c.status)

def close (l : Link) : Except DriverError Unit × Link :=
  let counted := { l with closes := l.closes + 1 }
  match l.medium with
  | .response c =>
    (.ok (), { counted with medium := .response c.close, afterClose := some (remainder c.close) })
  | .payload _ =>
    match l.script.closeFaults.at? l.origin.number with
    | some e => (.error e, counted)
    | none => (.ok (), counted)

def status (l : Link) : Except DriverError Nat :=
  match l.medium with
  | .response c => Connection.status c
  | .payload _ => .error (.unsupported "status")

def header (name : String) (l : Link) : Except DriverError Bytes :=
  match l.medium with
  | .response c => Connection.header name c
  | .payload _ => .error (.unsupported "header")

instance : Connection Link where
  kind := kind
  read := read
  write := write
  close := close
  status := status
  header := header

end Link

/-- How often a backend was asked for a connection, and how many it made. -/
structure Tally where
  asked : Nat
  made : Nat
deriving DecidableEq, Repr

/-- The tallies of backends by their names. -/
abbrev Tallies := List (String × Tally)

def Tallies.of (t : Tallies) (name : String) : Tally := (t.lookup name).getD ⟨0, 0⟩

def Tallies.set (t : Tallies) (name : String) (tally : Tally) : Tallies :=
  (name, tally) :: t.filter (·.1 ≠ name)

/-- The backend of a script. -/
def Script.backend (script : Script) (name : String) : Backend Tallies Link where
  name := name
  schemes := script.schemes
  connect target options config t :=
    let tally := t.of name
    match script.connectFaults.at? tally.asked with
    | some e => (.error e, t.set name { tally with asked := tally.asked + 1 })
    | none =>
      (.ok (.connect script ⟨name, tally.made, target, options, config.maxTransfer⟩),
        t.set name ⟨tally.asked + 1, tally.made + 1⟩)

end GuestNet.Scripted
