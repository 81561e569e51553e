import XmlSchema.Compilation.Gathering
import XmlSchema.Location.FilePath
import XmlSchema.View.Json

set_option autoImplicit false

namespace XmlSchema.CommandLine

structure Arguments where
  schema : String
  isPretty : Bool
  isSummary : Bool
  isOffline : Bool
  deriving DecidableEq, Repr

inductive UsageFault where
  | noCommand
  | unknownCommand (written : String)
  | unexpected (written : String)
  | repeated (written : String)
  | noSchema
  deriving DecidableEq, Repr

def UsageFault.message : UsageFault -> String
  | .noCommand => "a command is required"
  | .unknownCommand written => s!"unrecognized command '{written}'"
  | .unexpected written => s!"unexpected argument '{written}' found"
  | .repeated written => s!"the argument '{written}' cannot be used multiple times"
  | .noSchema => "the schema argument was not provided"

structure Seen where
  schema : Option String
  isPretty : Bool
  isSummary : Bool
  isOffline : Bool
  deriving DecidableEq, Repr

inductive Flag where
  | pretty
  | summary
  | offline
  deriving DecidableEq, Repr

def Flag.text : Flag -> String
  | .pretty => "--pretty"
  | .summary => "--summary"
  | .offline => "--offline"

namespace Seen

def isSet (seen : Seen) : Flag -> Bool
  | .pretty => seen.isPretty
  | .summary => seen.isSummary
  | .offline => seen.isOffline

def setFlag (seen : Seen) (flag : Flag) : Except UsageFault Seen :=
  if seen.isSet flag then .error (.repeated flag.text)
  else
    match flag with
    | .pretty => .ok { seen with isPretty := true }
    | .summary => .ok { seen with isSummary := true }
    | .offline => .ok { seen with isOffline := true }

def setSchema (seen : Seen) (written : String) : Except UsageFault Seen :=
  match seen.schema with
  | some _ => .error (.unexpected written)
  | none => if written.isEmpty then .error .noSchema else .ok { seen with schema := some written }

end Seen

def longFlag? (written : String) : Option Flag :=
  [Flag.pretty, .summary, .offline].find? fun flag => flag.text == written

def shortFlag? : Char -> Option Flag
  | 'p' => some .pretty
  | 's' => some .summary
  | _ => none

def readLetters (seen : Seen) (written : String) : List Char -> Except UsageFault Seen
  | [] => .ok seen
  | letter :: rest =>
      match shortFlag? letter with
      | none => .error (.unexpected written)
      | some flag =>
          match seen.setFlag flag with
          | .error fault => .error fault
          | .ok seen => readLetters seen written rest

def readArgument (seen : Seen) (written : String) : Except UsageFault Seen :=
  match written.toList with
  | ['-'] => seen.setSchema written
  | '-' :: '-' :: _ =>
      match longFlag? written with
      | some flag => seen.setFlag flag
      | none => .error (.unexpected written)
  | '-' :: letters => readLetters seen written letters
  | _ => seen.setSchema written

/-- Flags may stand before and after the schema. Behind two dashes nothing is a flag. -/
def readArguments (seen : Seen) (isPlain : Bool) :
    List String -> Except UsageFault Seen
  | [] => .ok seen
  | written :: rest =>
      if !isPlain && written == "--" then readArguments seen true rest
      else
        match if isPlain then seen.setSchema written else readArgument seen written with
        | .error fault => .error fault
        | .ok seen => readArguments seen isPlain rest

def read : List String -> Except UsageFault Arguments
  | [] => .error .noCommand
  | "inspect" :: rest =>
      match readArguments ⟨none, false, false, false⟩ false rest with
      | .error fault => .error fault
      | .ok seen =>
          match seen.schema with
          | none => .error .noSchema
          | some schema => .ok ⟨schema, seen.isPretty, seen.isSummary, seen.isOffline⟩
  | command :: _ => .error (.unknownCommand command)

structure Report where
  code : UInt8
  output : String
  errors : String
  deriving DecidableEq, Repr

def line (text : String) : String := text ++ "\n"

def errorLine (text : String) : String := line ("Error: " ++ text)

def countLine (label : String) (count : Nat) : String := line s!"  {label}: {count}"

def namespaceSummary (model : Model) (id : NamespaceId) : String :=
  let entry := model.namespaces.get id
  let name := entry.name.getD ""
  line "" ++ line ("Namespace: " ++ (if name.isEmpty then "(none)" else name))
    ++ (match entry.short with
      | some short => line ("  Short name: " ++ short)
      | none => "")
    ++ countLine "Documents" entry.sources.length
    ++ countLine "Global Elements" (model.globals id .elements).length
    ++ countLine "Global Types" (model.globals id .types).length
    ++ countLine "Global Attributes" (model.globals id .attributes).length
    ++ countLine "Model Groups" (model.globals id .groups).length
    ++ countLine "Attribute Groups" (model.globals id .attributeGroups).length

def version : String := "xsd-compiler v0.1.0"

def summary (model : Model) : String :=
  line version ++ line "" ++ line s!"Documents: {model.sources.size}"
    ++ String.join (model.definedNamespaces.map (namespaceSummary model))
    ++ line "" ++ line s!"Unresolved references: {model.unresolved.size}"
    ++ line s!"Skipped tags: {model.skipped.size}"

def output (arguments : Arguments) (compilation : Compilation) : String :=
  if arguments.isSummary then summary compilation.model
  else
    let json := compilation.view.json
    line (if arguments.isPretty then json.pretty else json.compact)

def errors (compilation : Compilation) : String :=
  String.join (compilation.failures.toList.map fun failed =>
      errorLine (failed.url.text ++ ": " ++ failed.failure.message))
    ++ String.join (compilation.model.unresolved.toList.map fun reference =>
      errorLine reference.message)

def isClean (compilation : Compilation) : Bool :=
  compilation.model.unresolved.isEmpty && compilation.failures.isEmpty

def report (arguments : Arguments) : Except Failure Compilation -> Report
  | .error failure => ⟨1, "", errorLine failure.message⟩
  | .ok compilation =>
      ⟨if isClean compilation then 0 else 1, output arguments compilation, errors compilation⟩

def usageReport (fault : UsageFault) : Report := ⟨2, "", line ("error: " ++ fault.message)⟩

/-- The schema is a path, never a URL. -/
def location (directory : String) (arguments : Arguments) : Url :=
  FilePath.toUrl (FilePath.absolute directory arguments.schema)

def options (arguments : Arguments) : Options :=
  { Options.standard with allowRemote := !arguments.isOffline }

def run (fetch : Fetch) (directory : String) (written : List String) : Report :=
  match read written with
  | .error fault => usageReport fault
  | .ok arguments =>
      report arguments (compile (options arguments) fetch (location directory arguments))

end XmlSchema.CommandLine
