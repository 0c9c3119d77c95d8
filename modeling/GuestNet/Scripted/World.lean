import GuestNet.Driver
import GuestNet.Overlap.Machine
import GuestNet.Scripted.Peers

/-! Drivers in a world of scripts: some backends follow a script of their own, and the two for
streams and for exchanges reach scripted peers. -/
namespace GuestNet.Scripted

structure World where
  tallies : Tallies
  peers : Peers

abbrev AnyLink := Link ⊕ (Http.ResponseConnection ⊕ Stream.Socket)

inductive BackendChoice where
  | stream
  | http
  | script (script : Script)

/-- The backends of a driver, of which those with a script are named by their number. -/
def backendsFrom (number : Nat) : List BackendChoice → List (Backend World AnyLink)
  | [] => []
  | .stream :: rest =>
    (Stream.backend Peers.dialer).embed (.inr ∘ .inr) World.peers
      (fun w p => { w with peers := p }) :: backendsFrom number rest
  | .http :: rest =>
    (Http.backend Peers.carrier).embed (.inr ∘ .inl) World.peers
      (fun w p => { w with peers := p }) :: backendsFrom number rest
  | .script s :: rest =>
    (s.backend (toString number)).embed .inl World.tallies
      (fun w t => { w with tallies := t }) :: backendsFrom (number + 1) rest

def backends (choices : List BackendChoice) : List (Backend World AnyLink) := backendsFrom 0 choices

def scripts (choices : List BackendChoice) : List Script :=
  choices.filterMap fun
    | .script s => some s
    | _ => none

/-- What can be looked at besides what calls answer. -/
class Watched (S : Type) extends Host S where
  setup : S → Setup World AnyLink
  world : S → World
  /-- All connections that were ever made, with whether they were let go of. -/
  links : S → List (AnyLink × Bool)

instance : Watched (Driver World AnyLink) where
  setup d := d.setup
  world d := d.world
  links d := (d.table.entries.toList.map fun e => (e.2.connection, false)) ++
    d.released.map fun c => (c, true)

section Watched

variable {S : Type} [Watched S]

/-- The connections of a scripted backend in the order in which they were made. -/
def linksOf (backend : String) (s : S) : List (Link × Bool) :=
  let links := (Watched.links s).filterMap fun
    | (.inl l, gone) => if l.origin.backend = backend then some (l, gone) else none
    | _ => none
  links.mergeSort fun a b => a.1.origin.number ≤ b.1.origin.number

def tallyOf (backend : String) (s : S) : Tally := (Watched.world s).tallies.of backend

end Watched

section Host

variable {S : Type} [Host S]

/-- Reads again and again until the end or a failure, but not more than so many times. What was
read already is given in pieces, the last one first. -/
def readAll (h : Handle) (len : Nat) : Nat → List Bytes → S → (Bytes × Option DriverError) × S
  | 0, pieces, s => ((pieces.reverse.flatten, none), s)
  | times + 1, pieces, s =>
    match Host.call (.perform h (.read len)) s with
    | (.error e, s) => ((pieces.reverse.flatten, some e), s)
    | (.ok (.bytes []), s) => ((pieces.reverse.flatten, none), s)
    | (.ok (.bytes data), s) => readAll h len times (data :: pieces) s
    | (.ok _, s) => ((pieces.reverse.flatten, none), s)

/-- Writes again and again until a failure, but not more than so many times. Tells whether some
write took something. -/
def fill (h : Handle) (data : Bytes) : Nat → Bool → S → (Bool × Option DriverError) × S
  | 0, took, s => ((took, none), s)
  | times + 1, took, s =>
    match Host.call (.perform h (.write data)) s with
    | (.error e, s) => ((took, some e), s)
    | (.ok (.number n), s) => fill h data times (took || 0 < n) s
    | (.ok _, s) => ((took, none), s)

end Host

end GuestNet.Scripted
