import GuestNet.Http.Body
import GuestNet.Http.Request

/-! Exchanges: a request is sent, and sent again where the answer tells to look elsewhere. -/
namespace GuestNet.Http

/-- The seconds that connecting and the whole exchange may take. -/
structure Limits where
  connect : Option UInt64
  whole : Option UInt64
deriving DecidableEq, Repr

/-- How requests travel. -/
structure Carrier (W : Type) where
  room : Room
  /-- A request that gets no usable answer gives `none`. -/
  send : Limits → Request → W → Option Response × W

/-- Where the answer tells to look. An address that the client cannot write is passed over. -/
def location? (r : Request) (a : Response) : Option Url :=
  match (a.headers.get? "location").bind Bytes.decode? with
  | none => none
  | some text => (Url.join r.url text).toOption.filter fun url => isUri url.write

/-- The address that a next request names as the one it comes from. It is not told from a
protected exchange to an open one. -/
def referer? (previous next : Url) : Option Bytes :=
  if previous.scheme = "https" ∧ next.scheme = "http" then none
  else some (.ofText previous.withoutUserinfo.withoutFragment.write)

/-- Headers that are for one host only. -/
def confidential : List String :=
  ["authorization", "cookie", "cookie2", "proxy-authorization", "www-authenticate"]

/-- Headers that describe a body. -/
def descriptive : List String :=
  ["transfer-encoding", "content-encoding", "content-type", "content-length"]

def isSameHost (a b : Url) : Bool :=
  a.hostText? = b.hostText? && a.effectivePort? = b.effectivePort?

namespace Request

def withReferer (r : Request) (next : Url) : Request :=
  match referer? r.url next with
  | none => r
  | some value => { r with headers := r.headers.insert "referer" value }

/-- The request at another address. -/
def moved (r : Request) (next : Url) : Request :=
  let r' := r.withReferer next
  let headers :=
    if isSameHost r.url next then r'.headers else confidential.foldl Headers.erase r'.headers
  { r' with url := next, headers := headers }

/-- The request without its body. Only a `HEAD` stays what it is. -/
def asGet (r : Request) : Request :=
  { r with
    method := if r.method = "HEAD" then "HEAD" else "GET"
    headers := descriptive.foldl Headers.erase r.headers
    body := none }

/-- The request that an answer asks for in place of the one it answers. -/
def redirected? (r : Request) (a : Response) : Option Request :=
  if a.status ∈ [301, 302, 303] then (location? r a).map r.asGet.moved
  else if a.status ∈ [307, 308] then (location? r a).map r.moved
  else none

end Request

variable {W : Type}

/-- Sends a request and follows redirections, at most so many. That the network fails is told of
the first address. -/
def follow (net : Carrier W) (limits : Limits) (first : Url) :
    Nat → Request → W → Except HttpFailure Response × W
  | left, r, w =>
    match net.send limits r.complete w with
    | (none, w) => (.error (.sending first.write), w)
    | (some a, w) =>
      match r.redirected? a, left with
      | none, _ => (.ok a, w)
      | some _, 0 => (.error (.redirecting r.url.withoutUserinfo.write), w)
      | some next, left + 1 =>
        if next.canTravel then follow net limits first left next w
        else (.error (.builder next.url.withoutUserinfo.write), w)

/-- How many redirections are followed. -/
def redirectLimit : Nat := 10

def exchange (net : Carrier W) (limits : Limits) (r : Request) (w : W) :
    Except HttpFailure Response × W :=
  if r.canTravel then follow net limits r.url redirectLimit r w
  else (.error (.builder r.url.write), w)

/-- One attempt to open a target. It has no result where the headers find no room. -/
def attempt (net : Carrier W) (target : Target) (options : String) (config : Config) (w : W) :
    Option (Except DriverError ResponseConnection × W) :=
  match Request.plan net.room target options with
  | none => none
  | some (.error e) => some (.error e, w)
  | some (.ok (o, r)) =>
    match exchange net ⟨config.connectTimeout o.connectTimeout, o.readTimeout⟩ r w with
    | (.error failure, w) => some (.error (.request target.raw failure), w)
    | (.ok a, w) => some (.ok (.ofResponse a), w)

/-- What stands for the result of an attempt that has none. No attempt has this result. -/
def noRoom : DriverError := .io (.described .other "size overflows MAX_SIZE: MaxSizeReached")

/-- Asks for a target over HTTP. -/
def backend (net : Carrier W) : Backend W ResponseConnection where
  name := "http"
  schemes := ["http", "https"]
  connect target options config w :=
    (attempt net target options config w).getD (.error noRoom, w)

end GuestNet.Http
