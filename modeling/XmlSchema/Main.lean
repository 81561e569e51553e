import XmlSchema.CommandLine
import XmlSchema.LocalFile

set_option autoImplicit false

namespace XmlSchema.CommandLine

def faultOfCode (code : UInt32) (details : String) : FileFault :=
  LocalFile.faultOfNumber (if code < 2147483648 then code else 0 - code).toNat details

def faultOf : IO.Error -> FileFault
  | .noFileOrDirectory _ _ _ => .noEntry
  | .inappropriateType _ code details => faultOfCode code details
  | .permissionDenied _ code details => faultOfCode code details
  | .invalidArgument _ code details => faultOfCode code details
  | .resourceExhausted _ code details => faultOfCode code details
  | .otherError code details => faultOfCode code details
  | error => .other (toString error)

/-- Why a path leads nowhere. Reading tells more than looking for the path without links does. -/
def faultAt (path : String) : IO FileFault := do
  match <- (IO.FS.readBinFile path).toBaseIO with
  | .error error => return faultOf error
  | .ok _ => return .noEntry

def readFile (limits : Limits) (url : Url) : IO (Except Failure Fetched) := do
  match LocalFile.pathOf url with
  | .error fault => return .error (.resource fault)
  | .ok path =>
      if path.contains 0 then return .error (LocalFile.unresolvable url path .nulByte)
      let written := LocalFile.displayed path
      match <- (IO.FS.realPath written).toBaseIO with
      | .error _ => return .error (LocalFile.unresolvable url path (<- faultAt written))
      | .ok found =>
          let content <- (IO.FS.readBinFile found).toBaseIO
          return LocalFile.document limits found.toString
            ((content.map fun bytes => bytes.toList).mapError faultOf)

partial def gather (options : Options) (gathering : Gathering) : IO Compilation :=
  match gathering.requests with
  | [] => return gathering.compilation
  | request :: _ => do
      let fetched <- readFile .standard request.url
      gather options (gathering.advance options fun _ => fetched)

def compileFiles (options : Options) (url : Url) : IO (Except Failure Compilation) := do
  let fetched <- readFile .standard url
  match Gathering.start options (fun _ => fetched) url with
  | .error failure => return .error failure
  | .ok gathering => return .ok (<- gather options gathering).resolve

def runFiles (written : List String) : IO Report := do
  match read written with
  | .error fault => return usageReport fault
  | .ok arguments =>
      let directory <- IO.currentDir
      return report arguments
        (<- compileFiles (options arguments) (location directory.toString arguments))

end XmlSchema.CommandLine

def main (arguments : List String) : IO UInt32 := do
  let report <- XmlSchema.CommandLine.runFiles arguments
  (<- IO.getStderr).putStr report.errors
  (<- IO.getStdout).putStr report.output
  return report.code.toUInt32
