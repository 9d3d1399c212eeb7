import MeshRoom.Url.Basic

/-!
# Paths of addresses

A path is a list of segments of which the last one is open: text is added to it until a slash
closes it and opens the next. A segment of one dot leaves the path as it is. Two dots take the last
closed segment away, unless that is a drive, which no path leads out of.

In a file address a drive that opens the path is written with a colon, and the path has no empty
segments at its start.
-/

namespace MeshRoom.Url

/-! ### Segments -/

/-- A slash, or in the special schemes a backslash. -/
def isSlash (special : Bool) (c : Char) : Bool := c = '/' || (special && c = '\\')

/-- Where a path ends. -/
def endsPath (c : Char) : Bool := c = '?' || c = '#'

/-- A text cut at every slash. -/
def segmentsOf (special : Bool) : List Char → List (List Char)
  | [] => [[]]
  | c :: cs =>
    match segmentsOf special cs with
    | [] => [[c]]
    | part :: parts =>
      if isSlash special c then [] :: part :: parts else (c :: part) :: parts

/-- A segment with encoded dots written plainly. -/
def plainDots : List Char → List Char
  | '%' :: '2' :: 'e' :: rest => '.' :: plainDots rest
  | '%' :: '2' :: 'E' :: rest => '.' :: plainDots rest
  | c :: rest => c :: plainDots rest
  | [] => []

/-- What a raw segment means: one dot stays, two dots go up. -/
inductive Segment where
  | here
  | up
  | named
deriving DecidableEq, Repr

def Segment.ofRaw (raw : List Char) : Segment :=
  if plainDots raw = ['.'] then .here
  else if plainDots raw = ['.', '.'] then .up
  else .named

/-! ### Drives -/

/-- A drive: a letter with a colon or a bar. -/
def isDrive : List Char → Bool
  | [letter, mark] => letter.isAlpha && (mark = ':' || mark = '|')
  | _ => false

/-- A drive as it is written in a file address. -/
def isPlainDrive (segment : String) : Bool :=
  match segment.toList with
  | [letter, ':'] => letter.isAlpha
  | _ => false

/-- A segment that no path leads out of: a drive, also with a backslash and more behind it. -/
def holds (segment : String) : Bool := isDrive (segment.toList.takeWhile (· ≠ '\\'))

/-- Whether a text starts with a drive as its first segment. -/
def startsDrive : List Char → Bool
  | letter :: mark :: rest =>
    isDrive [letter, mark] && rest.head?.all fun c => isSlash true c || endsPath c
  | _ => false

/-! ### The open segment -/

/-- Whether nothing has been added to the open segment. -/
def isFresh (path : List String) : Bool := path.getLast? = some ""

/-- Close the open segment. -/
def close (path : List String) : List String := path ++ [""]

/-- Add text to the open segment. -/
def extend (path : List String) (text : String) : List String :=
  path.dropLast ++ [path.getLast?.getD "" ++ text]

/-- Empty the open segment. In a file address a drive stays, and is closed if it is all of the
path. -/
def reopen (file : Bool) (path : List String) : List String :=
  if file && path.getLast?.any isPlainDrive then
    if path.length = 1 then close path else path
  else path.dropLast ++ [""]

/-- Go up: the last closed segment is taken away, if there is one that does not hold. -/
def goUp (file : Bool) (path : List String) : List String :=
  let closed := path.dropLast
  reopen file
    (if isFresh path && closed.getLast?.any (!holds ·) then closed else path)

/-! ### Following -/

/-- Whether nothing has been added to a path yet. -/
def isUnused (path : List String) : Bool := path = [""]

/-- The text of a raw segment that is no dots. -/
def namedText (raw : List Char) : String := String.ofList (Percent.encode Percent.inPath raw)

/-- The text of a raw drive in a file address. -/
def driveText (raw : List Char) : String := String.ofList (raw.take 1 ++ [':'])

/-- Whether a raw segment is a drive where a drive counts: at the start of a path. -/
def opensWithDrive (path : List String) (raw : List Char) : Bool := isUnused path && isDrive raw

/-- Follow a raw segment, which a slash closes if `closing` says so. -/
def followSegment (file closing : Bool) (path : List String) (raw : List Char) : List String :=
  match Segment.ofRaw raw with
  | .here => if isFresh path then path else close path
  | .up =>
    let path := goUp file path
    if closing && !isFresh path then close path else path
  | .named =>
    let text := if file && opensWithDrive path raw then driveText raw else namedText raw
    let path := extend path text
    if closing then close path else path

/-- Follow raw segments, all but the last of them closed by a slash. -/
def follow (file : Bool) : List String → List (List Char) → List String
  | path, [] => path
  | path, raw :: rest => follow file (followSegment file (!rest.isEmpty) path raw) rest

/-- Whether raw segments of a file address come upon a drive where a drive counts. -/
def meetsDrive : List String → List (List Char) → Bool
  | _, [] => false
  | path, raw :: rest =>
    opensWithDrive path raw || meetsDrive (followSegment true (!rest.isEmpty) path raw) rest

/-- A path without empty segments at its start. -/
def trimStart (path : List String) : List String :=
  match path.dropWhile (· = "") with
  | [] => [""]
  | path => path

/-- The path that raw text leads to from a path, in an address of a scheme. -/
def resolve (scheme : String) (path : List String) (text : List Char) : List String :=
  let file := scheme = "file"
  let path := follow file path (segmentsOf (isSpecial scheme) text)
  if file then trimStart path else path

end MeshRoom.Url
