import GuestNet.Backend
import GuestNet.Stream.Address

/-! Streams are opened by dialing the host and the port of a target. -/
namespace GuestNet.Stream

/-- What comes of dialing. -/
inductive Dialed (S : Type) where
  | connected (socket : S)
  | failed (error : IoError)
  /-- Nothing came within the time. -/
  | late

/-- How streams are connected, within seconds if any are given. -/
structure Dialer (W S : Type) where
  dial : Address → Option UInt64 → TcpOptions → W → Dialed S × W

/-- Blank options are the default ones. -/
def readOptions (text : String) : Except DriverError TcpOptions :=
  if Text.isAllBlank text then .ok .default
  else
    match TcpOptions.decode text with
    | .error e => .error (.badParams ("invalid tcp options: " ++ e.message))
    | .ok o => .ok o

def durationText (seconds : UInt64) : String := if seconds = 0 then "0ns" else toString seconds ++ "s"

def timedOut (limit : Option UInt64) : IoError :=
  .described .timedOut ("connect timed out after " ++ durationText (limit.getD 0))

/-- Opens streams. The options are read before the address. -/
def backend {W S : Type} (net : Dialer W S) : Backend W S where
  name := "tcp"
  schemes := ["tcp"]
  connect target options config w :=
    match readOptions options with
    | .error e => (.error e, w)
    | .ok o =>
      match Address.parse target.address with
      | .error e => (.error (.connect target.address e), w)
      | .ok address =>
        let limit := config.connectTimeout o.connectTimeout
        match net.dial address limit o w with
        | (.connected s, w) => (.ok s, w)
        | (.failed e, w) => (.error (.connect target.address e), w)
        | (.late, w) => (.error (.connect target.address (timedOut limit)), w)

end GuestNet.Stream
