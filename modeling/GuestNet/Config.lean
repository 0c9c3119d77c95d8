import GuestNet.AccessPolicy
import GuestNet.Bytes
import GuestNet.Handle
import GuestNet.Options

/-! The configuration of a driver, its JSON document, and what makes it usable. -/
namespace GuestNet

structure Config where
  maxHandles : Nat
  /-- The most bytes that one read or write moves. -/
  maxTransfer : Nat
  allowedTargets : List String
  defaultConnectTimeout : Option UInt64
deriving DecidableEq, Repr

/-- Values that a configuration cannot have, field by field. -/
inductive ConfigFault where
  | noHandles
  | tooManyHandles
  | noTransfer
  | allowedTarget (error : EndpointError)
deriving DecidableEq, Repr

def ConfigFault.field : ConfigFault → String
  | noHandles => "max_handles"
  | tooManyHandles => "max_handles"
  | noTransfer => "max_transfer"
  | allowedTarget _ => "allowed_targets"

def ConfigFault.reason : ConfigFault → String
  | noHandles => "must be at least 1"
  | tooManyHandles => "must not exceed " ++ toString Handle.greatest
  | noTransfer => "must be at least 1"
  | allowedTarget error => (DriverError.badParams error.message).message

inductive ConfigError where
  | read (path : String) (source : String)
  | parse (error : Json.Error)
  | invalid (fault : ConfigFault)
deriving DecidableEq, Repr

def ConfigError.message : ConfigError → String
  | read path source => "Failed to read config file '" ++ path ++ "': " ++ source
  | parse error => "Invalid config: " ++ error.message
  | invalid fault => "Invalid config value for '" ++ fault.field ++ "': " ++ fault.reason

namespace Config

def default : Config := ⟨1024, 64 * 1024, [], none⟩

def withMaxHandles (c : Config) (n : Nat) : Config := { c with maxHandles := n }

def withMaxTransfer (c : Config) (n : Nat) : Config := { c with maxTransfer := n }

def withAllowedTargets (c : Config) (entries : List String) : Config :=
  { c with allowedTargets := entries }

def withDefaultConnectTimeout (c : Config) (t : UInt64) : Config :=
  { c with defaultConnectTimeout := some t }

/-- The first entry that is neither blank nor a rule. -/
def checkEntries : List String → Except ConfigFault Unit
  | [] => .ok ()
  | e :: rest =>
    if Text.isAllBlank e then checkEntries rest
    else
      match Endpoint.parseRule e with
      | .error error => .error (.allowedTarget error)
      | .ok _ => checkEntries rest

/-- The first fault, in the order of the fields. -/
def validate (c : Config) : Except ConfigFault Unit :=
  if c.maxHandles = 0 then .error .noHandles
  else if Handle.greatest.toNat < c.maxHandles then .error .tooManyHandles
  else if c.maxTransfer = 0 then .error .noTransfer
  else checkEntries c.allowedTargets

structure Draft where
  maxHandles : Option Nat := none
  maxTransfer : Option Nat := none
  allowedTargets : Option (List String) := none
  defaultConnectTimeout : Option (Option UInt64) := none

open Json in
def members : List (Member Draft) :=
  [.of "max_handles" Draft.maxHandles (fun d v => { d with maxHandles := some v })
      (natural "usize") (consumes_natural _),
    .of "max_transfer" Draft.maxTransfer (fun d v => { d with maxTransfer := some v })
      (natural "usize") (consumes_natural _),
    .of "allowed_targets" Draft.allowedTargets (fun d v => { d with allowedTargets := some v })
      texts consumes_texts,
    .of "default_connect_timeout_secs" Draft.defaultConnectTimeout
      (fun d v => { d with defaultConnectTimeout := some v })
      (optional readSeconds) (consumes_optional consumes_readSeconds)]

/-- What is left out is as in the default configuration. -/
def Draft.finish (d : Draft) : Except Nat Config :=
  .ok ⟨d.maxHandles.getD default.maxHandles, d.maxTransfer.getD default.maxTransfer,
    d.allowedTargets.getD default.allowedTargets,
    d.defaultConnectTimeout.getD default.defaultConnectTimeout⟩

def record : Json.Record Draft Config := ⟨"DriverConfig", members, {}, Draft.finish⟩

def validated (c : Config) : Except ConfigError Config :=
  match c.validate with
  | .error fault => .error (.invalid fault)
  | .ok () => .ok c

def decode (text : String) : Except ConfigError Config :=
  match Json.decode record.read text with
  | .error e => .error (.parse e)
  | .ok c => c.validated

/-- What a directory holds under a name. -/
inductive FileEntry where
  | missing
  | directory
  | file (content : Bytes)

/-- The text of a file, or why it cannot be read. -/
def readText (name : String) (entry : FileEntry) : Except String String :=
  if '\x00' ∈ name.toList then .error "file name contained an unexpected NUL byte"
  else
    match entry with
    | .missing => .error IoError.noSuchFile.message
    | .directory => .error IoError.isADirectory.message
    | .file content =>
      match content.decode? with
      | none => .error "stream did not contain valid UTF-8"
      | some text => .ok text

def ofFile (name : String) (entry : FileEntry) : Except ConfigError Config :=
  match readText name entry with
  | .error source => .error (.read name source)
  | .ok text => decode text

/-- The time for connecting: the requested one before the default one. -/
def connectTimeout (c : Config) (requested : Option UInt64) : Option UInt64 :=
  requested <|> c.defaultConnectTimeout

end Config
end GuestNet
