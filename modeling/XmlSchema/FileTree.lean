import XmlSchema.LocalFile

set_option autoImplicit false

namespace XmlSchema

namespace FileTree

abbrev FileName := List UInt8

inductive Entry where
  | file (bytes : List UInt8)
  | directory
  | link (target : List UInt8)
  deriving DecidableEq, Repr

end FileTree

structure FileTree where
  entries : Table (List FileTree.FileName) FileTree.Entry
  deriving Repr

namespace FileTree

def empty : FileTree := ⟨Table.empty.insert [] .directory⟩

def slash : UInt8 := 47

def names : List UInt8 -> List FileName
  | [] => [[]]
  | b :: rest =>
      if b = slash then [] :: names rest
      else
        match names rest with
        | [] => [[b]]
        | name :: others => (b :: name) :: others

def isHere (name : FileName) : Bool := name == [] || name == [46]

def isUp (name : FileName) : Bool := name == [46, 46]

def pathText (path : List FileName) : List UInt8 :=
  if path.isEmpty then [slash] else path.flatMap (slash :: ·)

def maxNameLength : Nat := 255

def walk (tree : FileTree) (links : Nat) (reached : List FileName) :
    List FileName -> Except FileFault (List FileName)
  | [] => .ok reached
  | name :: rest =>
      if tree.entries.get? reached ≠ some .directory then .error .notDirectory
      else if isHere name then tree.walk links reached rest
      else if isUp name then tree.walk links reached.dropLast rest
      else if maxNameLength < name.length then .error .nameTooLong
      else
        match tree.entries.get? (reached ++ [name]) with
        | none => .error .noEntry
        | some (.link target) =>
            match links with
            | 0 => .error .tooManyLinks
            | links + 1 =>
                let start := if target.head? = some slash then [] else reached
                tree.walk links start (names target ++ rest)
        | some _ => tree.walk links (reached ++ [name]) rest
termination_by path => (links, path.length)

def maxLinks : Nat := 40

def resolve (tree : FileTree) (path : List UInt8) : Except FileFault (List FileName) :=
  if path.contains 0 then .error .nulByte else tree.walk maxLinks [] (names path)

def makeWay (tree : FileTree) (reached : List FileName) :
    List FileName -> Option (FileTree × List FileName)
  | [] => some (tree, reached)
  | name :: rest =>
      if isHere name then tree.makeWay reached rest
      else if isUp name then tree.makeWay reached.dropLast rest
      else
        let path := reached ++ [name]
        match tree.entries.get? path with
        | none => FileTree.makeWay ⟨tree.entries.insert path .directory⟩ path rest
        | some .directory => tree.makeWay path rest
        | some (.file _) => none
        | some (.link _) =>
            match tree.walk maxLinks reached [name] with
            | .error _ => none
            | .ok found =>
                if tree.entries.get? found = some .directory then tree.makeWay found rest else none

/-- Enters something at a path as it is written, seen from a directory. The directories that lead to
it are made first, also those that the path leaves again. -/
def insertAt (tree : FileTree) (directory : List FileName) (written : String) (entry : Entry) :
    FileTree :=
  match ((names (Utf8.encode written)).filter fun name => !isHere name).reverse with
  | [] => tree
  | name :: outer =>
      match tree.makeWay directory outer.reverse with
      | none => tree
      | some (tree, reached) => ⟨tree.entries.insert (reached ++ [name]) entry⟩

def fileAt (tree : FileTree) (path : List FileName) : Except FileFault (List UInt8) :=
  match tree.entries.get? path with
  | some (.file bytes) => .ok bytes
  | _ => .error .isDirectory

def fetch (tree : FileTree) (limits : Limits) : Fetch := fun url =>
  match LocalFile.pathOf url with
  | .error fault => .error (.resource fault)
  | .ok path =>
      match tree.resolve path with
      | .error fault => .error (LocalFile.unresolvable url path fault)
      | .ok found =>
          LocalFile.document limits (LocalFile.displayed (pathText found)) (tree.fileAt found)

end FileTree

end XmlSchema
