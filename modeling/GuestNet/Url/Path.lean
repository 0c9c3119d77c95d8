import GuestNet.Url.Basic

/-! Paths as lists of segments. Segments of one or two dots, plain or encoded, do not stay: they
leave out a step or go one back. -/
namespace GuestNet.Url

abbrev Segment := List Char

def isSingleDot (s : Segment) : Bool :=
  s.map Char.toLower ∈ [['.'], ['%', '2', 'e']]

def isDoubleDot (s : Segment) : Bool :=
  s.map Char.toLower ∈
    [['.', '.'], ['.', '%', '2', 'e'], ['%', '2', 'e', '.'], ['%', '2', 'e', '%', '2', 'e']]

/-- A letter and a colon or a bar name a drive in the path of a file. -/
def isDriveLetter : Segment → Bool
  | [c, d] => c.isAlpha && (d == ':' || d == '|')
  | _ => false

/-- Goes one segment back, but never past a drive. The segments are in reverse. -/
def shorten (kind : Kind) : List Segment → List Segment
  | [] => []
  | s :: rest => if kind = .file ∧ isDriveLetter s then s :: rest else rest

/-- The drive at the start of the path of a file is written with a colon. -/
def normalSegment (kind : Kind) (isFirst : Bool) (s : Segment) : Segment :=
  if kind = .file ∧ isFirst ∧ isDriveLetter s then s.take 1 ++ [':'] else s

/-- Adds a segment to those before it, which are in reverse. A path that ends in dots ends in a
slash. -/
def addSegment (kind : Kind) (isLast : Bool) (done : List Segment) (s : Segment) :
    List Segment :=
  if isDoubleDot s then
    let done := shorten kind done
    if isLast then [] :: done else done
  else if isSingleDot s then
    if isLast then [] :: done else done
  else percentEncode pathSet (normalSegment kind (done = []) s) :: done

/-- Adds segments to those of a base, all in reverse. -/
def resolve (kind : Kind) (done : List Segment) : List Segment → List Segment
  | [] => done
  | [s] => addSegment kind true done s
  | s :: rest => resolve kind (addSegment kind false done s) rest

/-- The pieces of a text between slashes. -/
def splitSegments (kind : Kind) (s : List Char) : List Segment :=
  (if kind.isSpecial then s.map fun c => if c = '\\' then '/' else c else s).splitOn '/'

/-- The path of a file starts with one slash. -/
def trimFile (segments : List Segment) : List Segment :=
  match segments.dropWhile (· = []) with
  | [] => [[]]
  | rest => rest

/-- The path that a text adds to the segments of a base. -/
def resolvePath (kind : Kind) (base : List Segment) (s : List Char) : Path :=
  let segments := (resolve kind base.reverse (splitSegments kind s)).reverse
  .segments ((if kind = .file then trimFile segments else segments).map String.ofList)

end GuestNet.Url
