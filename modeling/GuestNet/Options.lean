import GuestNet.Json.Record
import GuestNet.Json.Printer

/-! The documents with which a guest says how a connection is to be opened: one for an HTTP
exchange and one for a raw stream. They travel as JSON, with the names of the members in camel
case. What is absent is not written, and every member but the HTTP method may be left out. -/
namespace GuestNet

open Json

/-- A time in seconds. -/
def readSeconds : Reader UInt64 := fun s =>
  (natural "u64" s).map fun (n, rest) => (UInt64.ofNat n, rest)

theorem consumes_readSeconds : Consumes readSeconds := by
  intro s v rest h
  cases e : natural "u64" s with
  | error => simp only [readSeconds, e, Except.map, reduceCtorEq] at h
  | ok p =>
    simp only [readSeconds, e, Except.map, Except.ok.injEq, Prod.mk.injEq] at h
    exact h.2 ▸ consumes_natural _ _ _ _ e

def writeSeconds (t : UInt64) : List Char := writeNatural t.toNat

structure HttpOptions where
  method : String
  connectTimeout : Option UInt64
  /-- Covers the whole exchange with the reading of the body. -/
  readTimeout : Option UInt64
  headers : TextMap
  body : Option String
deriving DecidableEq

namespace HttpOptions

def new (method : String) : HttpOptions := ⟨method, none, none, .empty, none⟩

def withConnectTimeout (o : HttpOptions) (t : UInt64) : HttpOptions :=
  { o with connectTimeout := some t }

def withReadTimeout (o : HttpOptions) (t : UInt64) : HttpOptions := { o with readTimeout := some t }

def withHeader (o : HttpOptions) (name value : String) : HttpOptions :=
  { o with headers := o.headers.insert name value }

def withBody (o : HttpOptions) (body : String) : HttpOptions := { o with body := some body }

/-- The members read so far; a member that came as `null` holds nothing. -/
structure Draft where
  method : Option String := none
  connectTimeout : Option (Option UInt64) := none
  readTimeout : Option (Option UInt64) := none
  headers : Option TextMap := none
  body : Option (Option String) := none

def members : List (Member Draft) :=
  [.of "method" Draft.method (fun d v => { d with method := some v }) string consumes_string,
    .of "connectTimeout" Draft.connectTimeout (fun d v => { d with connectTimeout := some v })
      (optional readSeconds) (consumes_optional consumes_readSeconds),
    .of "readTimeout" Draft.readTimeout (fun d v => { d with readTimeout := some v })
      (optional readSeconds) (consumes_optional consumes_readSeconds),
    .of "headers" Draft.headers (fun d v => { d with headers := some v }) textMap
      consumes_textMap,
    .of "body" Draft.body (fun d v => { d with body := some v }) (optional string)
      (consumes_optional consumes_string)]

def Draft.finish (d : Draft) : Except Nat HttpOptions :=
  match d.method with
  | none => .error 0
  | some method => .ok {
      method := method
      connectTimeout := d.connectTimeout.join
      readTimeout := d.readTimeout.join
      headers := d.headers.getD .empty
      body := d.body.join }

def record : Record Draft HttpOptions := ⟨"HttpOptions", members, {}, Draft.finish⟩

def decode (text : String) : Except Json.Error HttpOptions := Json.decode record.read text

def writtenMembers (o : HttpOptions) : List (String × List Char) :=
  [("method", writeText o.method)] ++
    o.connectTimeout.toList.map (("connectTimeout", writeSeconds ·)) ++
    o.readTimeout.toList.map (("readTimeout", writeSeconds ·)) ++
    (if o.headers.isEmpty then [] else [("headers", writeTextMap o.headers)]) ++
    o.body.toList.map (("body", writeText ·))

def encode (o : HttpOptions) : String := String.ofList (writeObject o.writtenMembers)

end HttpOptions

structure TcpOptions where
  connectTimeout : Option UInt64
  /-- Reads and writes that have nothing to do say so and do not wait. -/
  nonblocking : Bool
  nodelay : Bool
deriving DecidableEq, Repr

namespace TcpOptions

def default : TcpOptions := ⟨none, false, false⟩

def withConnectTimeout (o : TcpOptions) (t : UInt64) : TcpOptions :=
  { o with connectTimeout := some t }

def withNonblocking (o : TcpOptions) : TcpOptions := { o with nonblocking := true }

def withNodelay (o : TcpOptions) : TcpOptions := { o with nodelay := true }

structure Draft where
  connectTimeout : Option (Option UInt64) := none
  nonblocking : Option Bool := none
  nodelay : Option Bool := none

def members : List (Member Draft) :=
  [.of "connectTimeout" Draft.connectTimeout (fun d v => { d with connectTimeout := some v })
      (optional readSeconds) (consumes_optional consumes_readSeconds),
    .of "nonblocking" Draft.nonblocking (fun d v => { d with nonblocking := some v }) flag
      consumes_flag,
    .of "nodelay" Draft.nodelay (fun d v => { d with nodelay := some v }) flag consumes_flag]

def Draft.finish (d : Draft) : Except Nat TcpOptions :=
  .ok ⟨d.connectTimeout.join, d.nonblocking.getD false, d.nodelay.getD false⟩

def record : Record Draft TcpOptions := ⟨"TcpOptions", members, {}, Draft.finish⟩

def decode (text : String) : Except Json.Error TcpOptions := Json.decode record.read text

def writtenMembers (o : TcpOptions) : List (String × List Char) :=
  o.connectTimeout.toList.map (("connectTimeout", writeSeconds ·)) ++
    [("nonblocking", writeFlag o.nonblocking), ("nodelay", writeFlag o.nodelay)]

def encode (o : TcpOptions) : String := String.ofList (writeObject o.writtenMembers)

end TcpOptions
end GuestNet
