import GuestNet.Connection
import GuestNet.Http.Headers

/-! The answer to a request. The status and the headers are there from the start and for good; the
body arrives in frames and is read like a stream. A read never crosses frames. -/
namespace GuestNet.Http

/-- What arrives of a body. -/
inductive Frame where
  | bytes (data : Bytes)
  | broken
deriving DecidableEq, Repr

structure Response where
  status : Nat
  headers : Headers
  frames : List Frame
deriving DecidableEq, Repr

structure ResponseConnection where
  status : Nat
  headers : Headers
  /-- The frames that have not arrived yet; none once the end was seen. -/
  frames : Option (List Frame)
  /-- What has arrived and was not read. -/
  pending : Bytes
deriving DecidableEq, Repr

namespace ResponseConnection

def ofResponse (r : Response) : ResponseConnection := ⟨r.status, r.headers, some r.frames, []⟩

def takePending (c : ResponseConnection) (len : Nat) : Bytes × ResponseConnection :=
  (c.pending.take len, { c with pending := c.pending.drop len })

/-- Reads from the next frame that is not empty. -/
def readFrames (c : ResponseConnection) (len : Nat) :
    List Frame → Except DriverError Bytes × ResponseConnection
  | [] => (.ok [], { c with frames := none })
  | .broken :: rest => (.error (.transfer .body), { c with frames := some rest })
  | .bytes [] :: rest => readFrames c len rest
  | .bytes data :: rest =>
    (.ok (data.take len), { c with frames := some rest, pending := data.drop len })

def read (len : Nat) (c : ResponseConnection) : Except DriverError Bytes × ResponseConnection :=
  if len = 0 then (.ok [], c)
  else if c.pending ≠ [] then
    let (data, c) := c.takePending len
    (.ok data, c)
  else
    match c.frames with
    | none => (.ok [], c)
    | some frames => c.readFrames len frames

def close (c : ResponseConnection) : ResponseConnection := { c with frames := none, pending := [] }

def header (name : String) (c : ResponseConnection) : Except DriverError Bytes :=
  if isHeaderName name.toList then
    match c.headers.get? name with
    | some value => .ok value
    | none => .error (.headerNotFound name)
  else .error (.badParams ("invalid header name '" ++ name ++ "'"))

instance : Connection ResponseConnection where
  kind _ := .http
  read := read
  write _ c := (.error (.unsupported "write"), c)
  close c := (.ok (), c.close)
  status c := .ok c.status
  header := header

end ResponseConnection
end GuestNet.Http
