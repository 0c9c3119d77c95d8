import GuestNet.Url.Host
import GuestNet.Url.Path

/-! Reading addresses, by themselves or relative to another one. -/
namespace GuestNet.Url

/-- Controls and spaces at the ends of a text do not count, nor do tabs and ends of lines. -/
def clean (s : List Char) : List Char :=
  let isEdge (c : Char) : Bool := c.toNat ≤ 0x20
  let trimmed := ((s.dropWhile isEdge).reverse.dropWhile isEdge).reverse
  trimmed.filter fun c => c ≠ '\t' && c ≠ '\n' && c ≠ '\r'

def isSchemeChar (c : Char) : Bool := c.isAlphanum || c == '+' || c == '-' || c == '.'

/-- The scheme in lower case, and what follows its colon. -/
def splitScheme? (s : List Char) : Option (List Char × List Char) :=
  match s.takeWhile isSchemeChar, s.dropWhile isSchemeChar with
  | c :: name, ':' :: rest => if c.isAlpha then some ((c :: name).map Char.toLower, rest) else none
  | _, _ => none

def isPathEnd (c : Char) : Bool := c == '?' || c == '#'

/-- The characters that end a host with its port and userinfo. -/
def isAuthorityEnd (kind : Kind) (c : Char) : Bool :=
  c == '/' || isPathEnd c || (c == '\\' && kind.isSpecial)

def isSlash (c : Char) : Bool := c == '/' || c == '\\'

def readFragment (s : List Char) : String := String.ofList (percentEncode fragmentSet s)

/-- The query and the fragment of a text that starts where the path ends. -/
def readQuery (kind : Kind) (s : List Char) : Option String × Option String :=
  match s with
  | '?' :: rest =>
    let set := if kind.isSpecial then specialQuerySet else querySet
    let query := String.ofList (percentEncode set (rest.takeWhile (· ≠ '#')))
    match rest.dropWhile (· ≠ '#') with
    | _ :: fragment => (some query, some (readFragment fragment))
    | [] => (some query, none)
  | '#' :: fragment => (none, some (readFragment fragment))
  | _ => (none, none)

/-- A port after its colon. A backslash may end it. -/
def readPort (scheme : String) (s : List Char) : Except UrlError (Option Nat × List Char) :=
  let digits := s.takeWhile Char.isDigit
  let rest := s.dropWhile Char.isDigit
  let value := digits.foldl (fun n d => n * 10 + (d.toNat - 48)) 0
  if 65535 < value then .error .invalidPort
  else if rest ≠ [] ∧ rest.head? ≠ some '\\' then .error .invalidPort
  else .ok (if digits = [] ∨ defaultPort? scheme = some value then none else some value, rest)

/-- The text before the last `@`, if there is one, and the text after it. -/
def splitUserinfo (s : List Char) : Option (List Char) × List Char :=
  match s.reverse.dropWhile (· ≠ '@') with
  | [] => (none, s)
  | _ :: userinfo => (some userinfo.reverse, (s.reverse.takeWhile (· ≠ '@')).reverse)

/-- A name and a password. An empty password is none. -/
def readUserinfo (s : List Char) : String × Option String :=
  let write (s : List Char) : String := String.ofList (percentEncode userinfoSet s)
  let password := (s.dropWhile (· ≠ ':')).drop 1
  (write (s.takeWhile (· ≠ ':')), if password = [] then none else some (write password))

structure Authority where
  username : String
  password : Option String
  host : Host
  port : Option Nat
  /-- What a backslash after the port starts. -/
  rest : List Char

/-- A host and a port. Only with a scheme that is not special may the host be empty, and then
nothing may stand beside it. -/
def readHostPort (kind : Kind) (scheme : String) (userinfo : String × Option String)
    (s : List Char) : Except UrlError Authority :=
  let (hostText, after) := splitHost false s
  if kind.isSpecial ∧ hostText = [] then .error .emptyHost
  else
    match if kind.isSpecial then domainHost hostText else plainHost hostText with
    | .error e => .error e
    | .ok host =>
      if host = .domain "" ∧ (after ≠ [] ∨ userinfo ≠ ("", none)) then .error .emptyHost
      else
        match after with
        | [] => .ok ⟨userinfo.1, userinfo.2, host, none, []⟩
        | _ :: portText =>
          (readPort scheme portText).map fun (port, rest) =>
            ⟨userinfo.1, userinfo.2, host, port, rest⟩

/-- Reads an authority; `more` tells whether anything follows it. -/
def readAuthority (kind : Kind) (scheme : String) (s : List Char) (more : Bool) :
    Except UrlError Authority :=
  match splitUserinfo s with
  | (none, hostPort) => readHostPort kind scheme ("", none) hostPort
  | (some [], hostPort) =>
    if hostPort = [] ∧ more then .error .emptyHost
    else readHostPort kind scheme ("", none) hostPort
  | (some userinfo, hostPort) => readHostPort kind scheme (readUserinfo userinfo) hostPort

/-- The path of an address with an authority, from right after that. -/
def readPath (kind : Kind) (s : List Char) : Path :=
  let text := s.takeWhile (!isPathEnd ·)
  match text with
  | [] => if kind.isSpecial then .segments [""] else .segments []
  | c :: rest =>
    if c = '/' ∨ (c = '\\' ∧ kind.isSpecial) then resolvePath kind [] rest
    else resolvePath kind [] (c :: rest)

/-- Reads what follows the two slashes after a scheme. -/
def readAfterSlashes (kind : Kind) (scheme : String) (s : List Char) : Except UrlError Url :=
  let authorityText := s.takeWhile (!isAuthorityEnd kind ·)
  let rest := s.dropWhile (!isAuthorityEnd kind ·)
  match readAuthority kind scheme authorityText (rest ≠ []) with
  | .error e => .error e
  | .ok a =>
    let rest := a.rest ++ rest
    let (query, fragment) := readQuery kind (rest.dropWhile (!isPathEnd ·))
    .ok {
      scheme := scheme
      username := a.username
      password := a.password
      host := some a.host
      port := a.port
      path := readPath kind rest
      query := query
      fragment := fragment }

/-- Reads an address whose scheme is not special and that has no authority. -/
def readFlat (scheme : String) (s : List Char) : Url :=
  let text := s.takeWhile (!isPathEnd ·)
  let (query, fragment) := readQuery .other (s.dropWhile (!isPathEnd ·))
  let path :=
    match text with
    | '/' :: rest => resolvePath .other [] rest
    | _ => .flat (String.ofList (percentEncode controlSet text))
  ⟨scheme, "", none, none, none, path, query, fragment⟩

/-- The host of a file and the text of its path. The local host is none. -/
def fileHost (s : List Char) : Except UrlError (Option Host × List Char) :=
  match s with
  | a :: b :: rest =>
    if isSlash a ∧ isSlash b then
      let isEnd (c : Char) : Bool := isSlash c || isPathEnd c
      let hostText := rest.takeWhile (!isEnd ·)
      if hostText = [] ∨ isDriveLetter hostText then .ok (none, rest)
      else
        match domainHost hostText with
        | .error e => .error e
        | .ok (.domain "localhost") => .ok (none, rest.dropWhile (!isEnd ·))
        | .ok host => .ok (some host, rest.dropWhile (!isEnd ·))
    else .ok (none, s)
  | _ => .ok (none, s)

/-- Reads the address of a file. A path that starts with a drive has no host. -/
def readFile (s : List Char) : Except UrlError Url :=
  match fileHost s with
  | .error e => .error e
  | .ok (host, rest) =>
    let text := rest.takeWhile (!isPathEnd ·)
    let text := if text.head?.any isSlash then text.drop 1 else text
    let hasDrive := (splitSegments .file text).head?.any isDriveLetter
    let (query, fragment) := readQuery .file (rest.dropWhile (!isPathEnd ·))
    .ok {
      scheme := "file"
      username := ""
      password := none
      host := if hasDrive then some (.domain "") else some (host.getD (.domain ""))
      port := none
      path := resolvePath .file [] text
      query := query
      fragment := fragment }

/-- Reads what follows the colon of a scheme. -/
def readAfterScheme (scheme : String) (s : List Char) : Except UrlError Url :=
  match Kind.ofScheme scheme with
  | .file => readFile s
  | .special => readAfterSlashes .special scheme (s.dropWhile isSlash)
  | .other =>
    match s with
    | '/' :: '/' :: rest => readAfterSlashes .other scheme rest
    | _ => .ok (readFlat scheme s)

def parse (text : String) : Except UrlError Url :=
  match splitScheme? (clean text.toList) with
  | some (scheme, rest) => readAfterScheme (String.ofList scheme) rest
  | none => .error .relativeWithoutBase

/-- Reads a text without a scheme, relative to an address with segments. -/
def readRelative (base : Url) (segments : List String) (s : List Char) : Except UrlError Url :=
  let kind := Kind.ofScheme base.scheme
  let isSep (c : Char) : Bool := c == '/' || (c == '\\' && kind.isSpecial)
  let withPath (start : List Segment) (s : List Char) : Url :=
    let (query, fragment) := readQuery kind (s.dropWhile (!isPathEnd ·))
    { base with
      path := resolvePath kind start (s.takeWhile (!isPathEnd ·))
      query := query
      fragment := fragment }
  match s with
  | [] => .ok base.withoutFragment
  | '#' :: rest => .ok { base with fragment := some (readFragment rest) }
  | '?' :: rest =>
    let (query, fragment) := readQuery kind ('?' :: rest)
    .ok { base with query := query, fragment := fragment }
  | '/' :: '/' :: rest => readAfterSlashes kind base.scheme rest
  | c :: rest =>
    if isSep c ∧ rest.head?.any isSep then
      readAfterSlashes kind base.scheme (rest.dropWhile isSep)
    else if isSep c then .ok (withPath [] rest)
    else .ok (withPath (segments.dropLast.map String.toList) (c :: rest))

/-- Reads a text that stands in a document at an address. -/
def join (base : Url) (text : String) : Except UrlError Url :=
  let s := clean text.toList
  let relative (s : List Char) : Except UrlError Url :=
    match base.path, s with
    | .segments parts, _ => readRelative base parts s
    | .flat _, '#' :: rest => .ok { base with fragment := some (readFragment rest) }
    | .flat _, _ => .error .relativeToFlatBase
  match splitScheme? s with
  | none => relative s
  | some (scheme, rest) =>
    let scheme := String.ofList scheme
    if Kind.ofScheme scheme = .special ∧ base.scheme = scheme ∧
        (rest.takeWhile isSlash).length < 2 then relative rest
    else readAfterScheme scheme rest

end GuestNet.Url
