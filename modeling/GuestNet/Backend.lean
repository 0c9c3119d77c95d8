import Std.Data.TreeMap
import GuestNet.Config
import GuestNet.Connection

/-! Backends make connections, and the scheme of a target selects one of them. -/
namespace GuestNet

/-- Makes connections of type `C`. What all backends share, such as a network, is a `W`. -/
structure Backend (W C : Type) where
  name : String
  schemes : List String
  connect : Target → String → Config → W → Except DriverError C × W

/-- The backend where its connections and what it shares are part of something larger. -/
def Backend.embed {W C V D : Type} (b : Backend W C) (f : C → D) (get : V → W)
    (put : V → W → V) : Backend V D where
  name := b.name
  schemes := b.schemes
  connect target options config v :=
    (b.connect target options config (get v)).map (Except.map f) (put v)

/-- The backend of each scheme in lower case. -/
abbrev Registry (W C : Type) := Std.TreeMap String (Backend W C)

namespace Registry

variable {W C : Type}

def lowerCase (scheme : String) : String := String.ofList (Target.lowerCase scheme.toList)

/-- Takes over every scheme that a backend serves. -/
def register (r : Registry W C) (b : Backend W C) : Registry W C :=
  b.schemes.foldl (fun r scheme => r.insert (lowerCase scheme) b) r

def ofBackends (backends : List (Backend W C)) : Registry W C := backends.foldl register ∅

def find? (r : Registry W C) (scheme : String) : Option (Backend W C) := r[scheme]?

def schemes (r : Registry W C) : List String := r.keys

end Registry
end GuestNet
