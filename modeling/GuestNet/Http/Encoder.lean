import GuestNet.Http.Message
import GuestNet.Http.Request

/-! Heads of requests as they are written. The framing of a message is the client's own: which
headers tell of a body depends on the body that there is. -/
namespace GuestNet.Http

/-- How a client writes the heads of requests. -/
structure Encoder where
  /-- What the first line asks for. -/
  target : Request → String
  version : Request → String
  /-- The headers that have a line. -/
  fields : Request → List (String × Bytes)
  head : Request → Bytes

/-- The first line of a head. -/
def requestLine (method target version : String) : Bytes :=
  [32].intercalate [Bytes.ofText method, Bytes.ofText target, Bytes.ofText version]

/-- The line of a header. -/
def fieldLine (f : String × Bytes) : Bytes := .ofText f.1 ++ .ofText ": " ++ f.2

/-- Lines as they are written, each with a carriage return and a line feed. -/
def writeLines (lines : List Bytes) : Bytes := lines.flatMap (· ++ [13, 10])

namespace Encoder

/-- Whether a coding ends in chunks. -/
def endsInChunks (h : Headers) : Bool :=
  (listValues h "transfer-encoding").getLast?.any fun v => v.map Char.toLower = "chunked".toList

/-- The headers with which a body of some length goes out. A coding is told to end in chunks, and
then there is no length. -/
def framed (h : Headers) (length : Nat) : Headers :=
  let given := readLength? (listValues h "content-length")
  match h.get? "transfer-encoding" with
  | some coding =>
    let h := if given.isSome then h.erase "content-length" else h
    if endsInChunks h then h
    else h.insert "transfer-encoding" (coding ++ .ofText ", chunked")
  | none => if given.isSome then h else h.insert "content-length" (.ofText (toString length))

/-- The headers with which a request goes out. -/
def fieldsOf (r : Request) : Headers :=
  match r.body with
  | none | some [] => r.headers.erase "transfer-encoding"
  | some body => framed r.headers body.length

/-- A tunnel is asked for by the authority alone. -/
def targetOf (r : Request) : String :=
  if r.method = "CONNECT" then r.url.writeUserinfo ++ Request.hostValue r.url else r.target

/-- A client that writes requests of version 1.1 to the hosts themselves. -/
def direct : Encoder where
  target := targetOf
  version _ := "HTTP/1.1"
  fields r := (fieldsOf r).entries
  head r := writeLines (requestLine r.method (targetOf r) "HTTP/1.1" ::
    (fieldsOf r).entries.map fieldLine ++ [[]])

end Encoder
end GuestNet.Http
