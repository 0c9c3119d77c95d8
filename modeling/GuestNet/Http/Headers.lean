import GuestNet.Bytes
import GuestNet.Http.Token

/-! The headers of a message. Letter case does not tell names apart, and a name may come more than
once. -/
namespace GuestNet.Http

structure Headers where
  /-- The names are in lower case. -/
  entries : List (String × Bytes)
deriving DecidableEq, Repr

namespace Headers

def empty : Headers := ⟨[]⟩

/-- The first value under a name. -/
def get? (h : Headers) (name : String) : Option Bytes := h.entries.lookup (lowerCase name)

def contains (h : Headers) (name : String) : Bool := (h.get? name).isSome

/-- Adds a value beside others of the same name. -/
def append (h : Headers) (name : String) (value : Bytes) : Headers :=
  ⟨h.entries ++ [(lowerCase name, value)]⟩

def erase (h : Headers) (name : String) : Headers :=
  let key := lowerCase name
  ⟨h.entries.filter fun e => e.1 ≠ key⟩

/-- Puts a value in the place of all of the same name. -/
def insert (h : Headers) (name : String) (value : Bytes) : Headers :=
  (h.erase name).append name value

/-- A header that is there already stays as it is. -/
def insertMissing (h : Headers) (name : String) (value : Bytes) : Headers :=
  if h.contains name then h else h.append name value

def ofList (entries : List (String × Bytes)) : Headers :=
  entries.foldl (fun h e => h.append e.1 e.2) empty

end Headers
end GuestNet.Http
