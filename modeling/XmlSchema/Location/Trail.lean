import XmlSchema.Location.Percent

set_option autoImplicit false

namespace XmlSchema

def isBreak (c : Char) : Bool := c == '\t' || c == '\n' || c == '\r'

def withoutBreaks (text : List Char) : List Char := text.filter fun c => !isBreak c

/-- A path as written so far, last character first. It is empty or starts with a slash. -/
abbrev Trail := List Char

namespace Trail

def ofText (path : List Char) : Trail := path.reverse

def toText (trail : Trail) : List Char := trail.reverse

def root : Trail := ['/']

def endsInSlash (trail : Trail) : Bool := trail.head? == some '/'

def closed (trail : Trail) : Trail := if trail.endsInSlash then trail else '/' :: trail

def write (trail : Trail) (text : List Char) : Trail := text.reverse ++ trail

def final (trail : Trail) : List Char := (trail.takeWhile (· != '/')).reverse

def isDrive (segment : List Char) : Bool :=
  match segment with
  | [letter, mark] => letter.isAlpha && (mark == ':' || mark == '|')
  | _ => false

def isPlainDrive (segment : List Char) : Bool :=
  isDrive segment && segment.getLast? == some ':'

def startsWithDrive (text : List Char) : Bool :=
  isDrive (text.take 2) && ((text[2]?).map fun c => c == '/' || c == '\\').getD true

/-- Whether the trail is the root and a drive, and the slash after the drive is not written. -/
def isBareDrive (trail : Trail) : Bool :=
  match trail with
  | [mark, letter, slash] => slash == '/' && isPlainDrive [letter, mark]
  | _ => false

/-- Less the text after its last slash. A file path keeps a drive there. -/
def parent (isFile : Bool) (trail : Trail) : Trail :=
  if isFile && isPlainDrive trail.final then trail else trail.dropWhile (· != '/')

def opened (trail : Trail) : Trail :=
  match trail with
  | '/' :: before =>
      if before.contains '/' && !startsWithDrive (final before ++ ['/']) then before else trail
  | _ => trail

def up (isFile : Bool) (trail : Trail) : Trail := parent isFile trail.opened

end Trail

/-- A path on its way, and whether a segment was taken for the drive that it starts with. -/
structure Walk where
  trail : Trail
  onDrive : Bool
  deriving DecidableEq, Repr

namespace Walk

def start (trail : Trail) : Walk := ⟨trail, false⟩

def dotted : List Char -> List Char
  | '%' :: '2' :: 'e' :: rest => '.' :: dotted rest
  | '%' :: '2' :: 'E' :: rest => '.' :: dotted rest
  | c :: rest => c :: dotted rest
  | [] => []

inductive Segment where
  | here
  | up
  | name (text : List Char)

def segment (text : List Char) : Segment :=
  match dotted text with
  | ['.'] => .here
  | ['.', '.'] => .up
  | _ => .name (Percent.encode Percent.isPathEscaped text)

def drive (name : List Char) : List Char := name.take 1 ++ [':']

/-- Follows one segment. A slash comes after it unless it is the last one of its reference. -/
def step (isFile isLast : Bool) (walk : Walk) (text : List Char) : Walk :=
  let finish (trail : Trail) : Trail := if isLast then trail else '/' :: trail
  match segment text with
  | .here => { walk with trail := walk.trail.closed }
  | .up =>
      let above := walk.trail.up isFile
      { walk with trail := if isLast then above else above.closed }
  | .name name =>
      if isFile && walk.trail == Trail.root && Trail.isDrive name then
        ⟨finish (walk.trail.write (drive name)), true⟩
      else { walk with trail := finish (walk.trail.write name) }

def brokenDrive? (written : List Char) : Option (List Char × List Char) :=
  match withoutBreaks written with
  | letter :: mark :: rest =>
      let behind := (written.dropWhile (· != mark)).tail
      if Trail.isPlainDrive [letter, mark] && !rest.isEmpty && (behind.head?.map isBreak).getD false
      then some ([letter, mark], rest)
      else none
  | _ => none

/-- Follows one segment of a file path as it is written, breaks included. They do not count, but
one right behind a drive ends it. -/
def fileStep (isLast : Bool) (walk : Walk) (written : List Char) : Walk :=
  let text := withoutBreaks written
  if walk.trail.isBareDrive && !text.isEmpty then
    step true isLast { walk with trail := walk.trail.closed } text
  else
    match brokenDrive? written with
    | some (drive, rest) =>
        if walk.trail == Trail.root then
          let trail := ((walk.trail.write drive).closed).write
            (Percent.encode Percent.isPathEscaped rest)
          { walk with trail := if isLast then trail else '/' :: trail }
        else step true isLast walk text
    | none => step true isLast walk text

def follow (step : Bool -> Walk -> List Char -> Walk) (walk : Walk) : List (List Char) -> Walk
  | [] => walk
  | [segment] => step true walk segment
  | segment :: rest => follow step (step false walk segment) rest

def split (isSeparator : Char -> Bool) : List Char -> List (List Char)
  | [] => [[]]
  | c :: rest =>
      if isSeparator c then [] :: split isSeparator rest
      else
        match split isSeparator rest with
        | [] => [[c]]
        | part :: parts => (c :: part) :: parts

def filePath (walk : Walk) : List Char := '/' :: walk.trail.toText.dropWhile (· == '/')

end Walk

end XmlSchema
