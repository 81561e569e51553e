import XmlSchema.Compilation.Basic
import XmlSchema.Location.FilePath

set_option autoImplicit false

namespace XmlSchema.LocalFile

def pathOf (url : Url) : Except ResourceFault (List UInt8) :=
  if url.isRemote then .error (.notFile url.text)
  else
    match FilePath.ofUrl? url with
    | none => .error (.notLocal url.text)
    | some path => .ok path

def displayed (path : List UInt8) : String := String.ofList (Utf8.decodeLossy path)

def faultOfNumber (number : Nat) (details : String) : FileFault :=
  match number with
  | 2 => .noEntry
  | 13 => .permissionDenied
  | 20 => .notDirectory
  | 21 => .isDirectory
  | 36 => .nameTooLong
  | 40 => .tooManyLinks
  | _ => .other s!"{details} (os error {number})"

def unresolvable (url : Url) (path : List UInt8) (fault : FileFault) : Failure :=
  match fault with
  | .noEntry => .notFound url.text
  | _ => .resource (.unresolvable (displayed path) fault)

/-- The document at a path without links, given what reading the file gave. -/
def document (limits : Limits) (path : String) (content : Except FileFault (List UInt8)) :
    Except Failure Fetched :=
  match content with
  | .error fault => .error (.resource (.unreadable path fault))
  | .ok bytes =>
      match limits.check .documentSize bytes.length with
      | .error exceeded => .error (.limit exceeded)
      | .ok () => .ok ⟨bytes, FilePath.toUrl path⟩

end XmlSchema.LocalFile
