import GuestNet.Backend
import GuestNet.Http.Headers
import GuestNet.Http.Uri
import GuestNet.Text.Base64

/-! Requests: how one is made from what a guest gave, and what is added to it on its way. -/
namespace GuestNet.Http

structure Request where
  method : String
  url : Url
  headers : Headers
  body : Option Bytes
deriving DecidableEq, Repr

/-- The room for headers that a client has. -/
structure Room where
  /-- How many headers of a map get a place in a message, in the order of the map. -/
  headers : TextMap → Nat
  /-- Whether the client's own headers find room beside those of a request. -/
  carries : Request → Bool

/-- Room for so many headers in all. -/
def Room.upTo (limit : Nat) : Room where
  headers _ := limit
  carries r := r.headers.entries.length < limit

/-- Options without a method are none. -/
def readOptions (text : String) : Except DriverError HttpOptions :=
  match HttpOptions.decode text with
  | .error e => .error (.badParams ("invalid http options: " ++ e.message))
  | .ok o =>
    if Text.isAllBlank o.method then .error (.badParams "http method must not be empty") else .ok o

def readMethod (method : String) : Except DriverError String :=
  match readMethod? method with
  | none => .error (.badParams ("invalid http method '" ++ method ++ "'"))
  | some method => .ok method

def readHeader (name value : String) : Except DriverError (String × Bytes) :=
  if isHeaderName name.toList then
    if isHeaderValue value.toList then .ok (name, .ofText value)
    else .error (.badParams ("invalid value for header '" ++ name ++ "'"))
  else .error (.badParams ("invalid header name '" ++ name ++ "'"))

/-- Puts entries among headers, one after the other, while there is room for so many. An entry that
finds no room has no result. -/
def addHeaders : Nat → Headers → List (String × String) → Option (Except DriverError Headers)
  | _, h, [] => some (.ok h)
  | room, h, (name, value) :: rest =>
    match readHeader name value with
    | .error e => some (.error e)
    | .ok (name, value) =>
      if room = 0 then none else addHeaders (room - 1) (h.insert name value) rest

/-- Of names that differ in letter case only, the last in the order of the map counts. -/
def readHeaders (capacity : Nat) (headers : TextMap) : Option (Except DriverError Headers) :=
  addHeaders capacity .empty headers.entries

def readUrl (address : String) : Except DriverError Url :=
  match Url.parse address with
  | .error e => .error (.badParams ("invalid url '" ++ address ++ "': " ++ e.message))
  | .ok url => .ok url

def decodePercent? (s : String) : Option String := Bytes.decode? (Url.percentDecode s.toList)

/-- The header for the userinfo of an address. -/
def basicAuthorization? (url : Url) : Option Bytes :=
  match decodePercent? url.username with
  | none => none
  | some name =>
    let password := url.password.bind decodePercent?
    if name = "" ∧ password = none then none
    else
      let credentials := name ++ ":" ++ password.getD ""
      some (.ofText ("Basic " ++ String.ofList (Text.Base64.encode (.ofText credentials))))

namespace Request

/-- The userinfo of an address becomes a header, unless that header is given. -/
def new (method : String) (url : Url) (headers : Headers) (body : Option Bytes) : Request :=
  match basicAuthorization? url with
  | none => ⟨method, url, headers, body⟩
  | some value =>
    ⟨method, url.withoutUserinfo, headers.insertMissing "authorization" value, body⟩

/-- The request for a target. All that a guest gave is looked at: the options, the method in them,
their headers, and the address of the target, in this order. There is none where the headers or the
request find no room. -/
def plan (room : Room) (target : Target) (options : String) :
    Option (Except DriverError (HttpOptions × Request)) :=
  match readOptions options with
  | .error e => some (.error e)
  | .ok o =>
    match readMethod o.method with
    | .error e => some (.error e)
    | .ok method =>
      match readHeaders (room.headers o.headers) o.headers with
      | none => none
      | some (.error e) => some (.error e)
      | some (.ok headers) =>
        match readUrl target.address with
        | .error e => some (.error e)
        | .ok url =>
          let r := new method url headers (o.body.map .ofText)
          if room.carries r then some (.ok (o, r)) else none

/-- A host, with a port where that is not the default of the scheme. -/
def hostValue (url : Url) : String := (url.hostText?).getD "" ++ url.writePort

/-- The request with the headers that every message has. -/
def complete (r : Request) : Request :=
  let headers := r.headers.insertMissing "accept" (.ofText "*/*")
  { r with headers := headers.insertMissing "host" (.ofText (hostValue r.url)) }

/-- What is asked for at the host of a request. -/
def target (r : Request) : String := r.url.path.write ++ r.url.writeQuery

/-- Only these schemes carry requests, and only to an address that the client can write. -/
def canTravel (r : Request) : Bool :=
  (r.url.scheme = "http" || r.url.scheme = "https") && isUri r.url.write

end Request
end GuestNet.Http
