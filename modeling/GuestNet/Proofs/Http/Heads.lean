import GuestNet.Http.Encoder
import GuestNet.Proofs.Http.WellFormed

/-! The heads of requests as a client writes them: a line for the request, whose words are the
method, what it asks for and a version, and a line for each header. The framing of messages is the
client's business, and so are the headers that tell of it. Nothing that a guest gives makes another
line. -/
namespace GuestNet.Http

open Text (IsGraphic)

namespace Encoder

/-- The headers that a client leaves out, rewrites or adds as the framing and the way of a message
ask for it. -/
def ownNames : List String :=
  ["connection", "content-length", "proxy-authorization", "transfer-encoding"]

/-- What is relied on of a client. Its heads are of a line for the request, one for each header and
an empty one. It asks for the path and the query of an address, for its authority alone, or for all
of it but the fragment. All headers but those of its own go out as they are, in some order. One of its
own goes out as it is, with one more coding after those that it has, or with a value of the client's
own. Where each header of a request has one value, none goes out twice. -/
structure Faithful (e : Encoder) : Prop where
  head : ∀ r, e.head r = writeLines (requestLine r.method (e.target r) (e.version r) ::
    (e.fields r).map fieldLine ++ [[]])
  target : ∀ r, e.target r = r.target ∨
    e.target r = r.url.writeUserinfo ++ Request.hostValue r.url ∨
      e.target r = r.url.withoutFragment.write
  version : ∀ r, e.version r = "HTTP/1.1" ∨ e.version r = "HTTP/1.0"
  kept : ∀ r, ((e.fields r).filter (·.1 ∉ ownNames)).Perm
    (r.headers.entries.filter (·.1 ∉ ownNames))
  own : ∀ r, ∀ f ∈ e.fields r, f.1 ∈ ownNames → f ∈ r.headers.entries ∨
    (∃ value, (f.1, value) ∈ r.headers.entries ∧ f.2 = value ++ .ofText ", chunked") ∨
      ∀ b ∈ f.2, IsValueByte b
  names : ∀ r, (r.headers.entries.map Prod.fst).Nodup → ((e.fields r).map Prod.fst).Nodup

namespace Faithful

variable {e : Encoder} {r : Request}

end Faithful
end Encoder

namespace Headers

variable {h : Headers} {name : String} {value : Bytes}

end Headers

namespace Encoder

end Encoder

namespace Smuggled

/-- An address with spaces, ends of lines and a null in it. -/
def target : Target :=
  ⟨"http", "http://[::1]/a b\r\nX: y?c\x00 d", "http://[::1]/a b\r\nX: y?c\x00 d"⟩

/-- A method with white space around it, a header with a tab in its value, and one that describes
the body. -/
def options : String :=
  "[\"\\t post \",null,null,\x7b\"X-A\":\"b\\tc: d\",\"Transfer-Encoding\":\"gzip\"\x7d,\"hi\"]"

def lines : List Bytes :=
  [.ofText "POST /a%20bX:%20y?c%00%20d HTTP/1.1\r", .ofText "x-a: b\tc: d\r",
    .ofText "accept: */*\r", .ofText "host: [::1]\r", .ofText "transfer-encoding: gzip, chunked\r",
    .ofText "\r"]

end Smuggled
end GuestNet.Http
