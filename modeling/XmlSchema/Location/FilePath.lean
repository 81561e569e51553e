import XmlSchema.Location.Url

set_option autoImplicit false

namespace XmlSchema.FilePath

def isAbsolute (path : String) : Bool := path.toList.head? == some '/'

def absolute (directory path : String) : String :=
  if isAbsolute path then path else directory ++ "/" ++ path

def components (path : String) : List (List Char) :=
  (Text.splitOn '/' path.toList).filter fun name => !name.isEmpty && name != ['.']

def toUrl (path : String) : Url :=
  let names := (components path).map (Percent.encode Percent.isFileNameEscaped)
  let text := if names.isEmpty then ['/'] else names.flatMap ('/' :: ·)
  ⟨"file", [], [], some [], none, .rooted text, none, none⟩

def isDriveEnd (bytes : List UInt8) : Bool :=
  match bytes.reverse with
  | mark :: letter :: _ :: _ =>
      (mark == 58 || mark == 124) && (Utf8.narrow letter).isAlpha
  | _ => false

/-- The path of a URL on this machine, as bytes. A drive at its end keeps a slash. -/
def ofUrl? (url : Url) : Option (List UInt8) :=
  match url.path, url.host.getD [] with
  | .rooted text, [] =>
      let bytes := Percent.decode (Utf8.encode (String.ofList text))
      some (if isDriveEnd bytes then bytes ++ [47] else bytes)
  | _, _ => none

end XmlSchema.FilePath

namespace XmlSchema.Url

/-- A location as a user writes it: a URL, or else a path seen from `directory`. A scheme of one
letter is a drive, so such a text is a path. -/
def ofLocation (directory written : String) : Url :=
  match ofText written with
  | .ok url =>
      if 1 < url.scheme.length then url else FilePath.toUrl (FilePath.absolute directory written)
  | .error _ => FilePath.toUrl (FilePath.absolute directory written)

end XmlSchema.Url
