import GuestNet.Decimal.Digits
import GuestNet.Http.Body
import GuestNet.Url.Percent

/-! Reading the bytes of an answer, up to the end of the stream. What is no head makes the answer
unusable; a body that is cut short or badly framed is broken where that shows. -/
namespace GuestNet.Http

def byteChar (b : UInt8) : Char := Char.ofNat b.toNat

/-- The first line and what follows it. A line ends at a line feed, before which a carriage return
does not count. -/
def splitLine? (s : Bytes) : Option (List Char × Bytes) :=
  match s.dropWhile (· ≠ 10) with
  | [] => none
  | _ :: rest =>
    let line := (s.takeWhile (· ≠ 10)).map byteChar
    some (if line.getLast? = some '\r' then line.dropLast else line, rest)

theorem length_of_splitLine? {s rest : Bytes} {line : List Char}
    (h : splitLine? s = some (line, rest)) : rest.length < s.length := by
  unfold splitLine? at h
  split at h
  · cases h
  · rename_i c tail e
    have hlen : (s.dropWhile (· ≠ 10)).length ≤ s.length := by
      have := congrArg List.length (List.takeWhile_append_dropWhile (p := (· ≠ 10)) (l := s))
      simp only [List.length_append] at this
      omega
    rw [e, List.length_cons] at hlen
    cases h
    exact hlen

def isOuterBlank (c : Char) : Bool := c == ' ' || c == '\t'

def trimBlanks (s : List Char) : List Char :=
  ((s.dropWhile isOuterBlank).reverse.dropWhile isOuterBlank).reverse

/-- A version, a status of three digits, and perhaps a reason. -/
def readStatus? (line : List Char) : Option Nat :=
  match line with
  | 'H' :: 'T' :: 'T' :: 'P' :: '/' :: '1' :: '.' :: minor :: ' ' :: a :: b :: c :: rest =>
    if (minor = '0' ∨ minor = '1') ∧ [a, b, c].all Char.isDigit ∧
        100 ≤ Decimal.value [a, b, c] ∧ (rest = [] ∨ rest.head? = some ' ') then
      some (Decimal.value [a, b, c])
    else none
  | _ => none

/-- A name, a colon and a value without blanks at its ends. -/
def readField? (line : List Char) : Option (String × Bytes) :=
  let name := line.takeWhile (· ≠ ':')
  match line.dropWhile (· ≠ ':') with
  | [] => none
  | _ :: value =>
    let value := trimBlanks value
    if isToken name ∧ isHeaderValue value then
      some (String.ofList name, value.map fun c => UInt8.ofNat c.toNat)
    else none

/-- The headers up to the empty line, and what follows it. -/
def readFields? (h : Headers) (s : Bytes) : Option (Headers × Bytes) :=
  match _e : splitLine? s with
  | none => none
  | some ([], rest) => some (h, rest)
  | some (line, rest) =>
    match readField? line with
    | none => none
    | some (name, value) => readFields? (h.append name value) rest
termination_by s.length
decreasing_by exact length_of_splitLine? _e

theorem length_of_readFields? {h h' : Headers} {s rest : Bytes}
    (e : readFields? h s = some (h', rest)) : rest.length < s.length := by
  fun_induction readFields? h s with
  | case1 => cases e
  | case2 h s rest' hs =>
    cases e
    exact length_of_splitLine? hs
  | case3 => cases e
  | case4 h s line rest' _ hs name value _ ih =>
    exact Nat.lt_trans (ih e) (length_of_splitLine? hs)

/-- A head, and what follows it. -/
def readHead? (s : Bytes) : Option (Nat × Headers × Bytes) :=
  match splitLine? s with
  | none => none
  | some (line, rest) =>
    match readStatus? line, readFields? .empty rest with
    | some status, some (headers, rest) => some (status, headers, rest)
    | _, _ => none

theorem length_of_readHead? {s rest : Bytes} {status : Nat} {headers : Headers}
    (h : readHead? s = some (status, headers, rest)) : rest.length < s.length := by
  unfold readHead? at h
  split at h
  · cases h
  · rename_i line rest' e
    split at h
    · rename_i e'
      cases h
      exact Nat.lt_trans (length_of_readFields? e') (length_of_splitLine? e)
    · cases h

/-- How the end of a body is known. -/
inductive Framing where
  | empty
  | length (n : Nat)
  | chunked
  | untilClose
deriving DecidableEq, Repr

/-- The values of a header that are separated by commas, over all of its lines. -/
def listValues (h : Headers) (name : String) : List (List Char) :=
  (h.entries.filter (·.1 = name)).flatMap fun e =>
    ((e.2.map byteChar).splitOn ',').map trimBlanks

/-- A length given more than once has to be the same each time. -/
def readLength? : List (List Char) → Option Nat
  | [] => none
  | first :: rest =>
    if first ≠ [] ∧ first.all Char.isDigit ∧ rest.all (· = first) then some (Decimal.value first)
    else none

/-- The framing of the answer to a method; it may be contradictory. -/
def framing? (method : String) (status : Nat) (h : Headers) : Option Framing :=
  if method = "HEAD" ∨ status = 204 ∨ status = 304 then some .empty
  else if h.contains "transfer-encoding" then
    let last := (listValues h "transfer-encoding").getLast?.map (·.map Char.toLower)
    some (if last = some "chunked".toList then .chunked else .untilClose)
  else if h.contains "content-length" then
    (readLength? (listValues h "content-length")).map .length
  else some .untilClose

/-- The size at the start of a chunk. -/
def readSize? (line : List Char) : Option Nat :=
  let digits := line.takeWhile fun c => (Url.hexDigitValue? c).isSome
  let rest := (line.drop digits.length).dropWhile isOuterBlank
  if digits = [] ∨ 16 < digits.length then none
  else if rest = [] ∨ rest.head? = some ';' then
    some (digits.foldl (fun n c => 16 * n + (Url.hexDigitValue? c).getD 0) 0)
  else none

/-- The frames of a body in chunks. -/
def readChunks (s : Bytes) : List Frame :=
  match _e : splitLine? s with
  | none => [.broken]
  | some (line, rest) =>
    match readSize? line with
    | none => [.broken]
    | some 0 => if (readFields? .empty rest).isSome then [] else [.broken]
    | some size =>
      if rest.length < size then [.bytes rest, .broken]
      else
        match _e' : rest.drop size with
        | 13 :: 10 :: more => .bytes (rest.take size) :: readChunks more
        | _ => [.bytes (rest.take size), .broken]
termination_by s.length
decreasing_by
  have h1 := length_of_splitLine? _e
  have h2 := congrArg List.length _e'
  simp only [List.length_drop, List.length_cons] at h2
  omega

def readBody (s : Bytes) : Framing → List Frame
  | .empty => []
  | .length n => if s.length < n then [.bytes s, .broken] else [.bytes (s.take n)]
  | .chunked => readChunks s
  | .untilClose => [.bytes s]

/-- The answer to a method. Heads that only announce another one are passed over. -/
def Response.read? (method : String) (s : Bytes) : Option Response :=
  match _e : readHead? s with
  | none => none
  | some (status, headers, rest) =>
    if status < 200 then Response.read? method rest
    else (framing? method status headers).map fun f => ⟨status, headers, readBody rest f⟩
termination_by s.length
decreasing_by exact length_of_readHead? _e

end GuestNet.Http
