import XmlSchema.Location.Host
import XmlSchema.Location.Trail

set_option autoImplicit false

namespace XmlSchema

namespace Url

inductive Path where
  | plain (text : List Char)
  | rooted (text : List Char)
  deriving DecidableEq, Inhabited, Repr

inductive Fault where
  | noBase
  | plainBase
  | port
  | host (fault : Host.Fault)
  deriving DecidableEq, Repr

def Fault.message : Fault -> String
  | .noBase => "relative URL without a base"
  | .plainBase => "relative URL with a cannot-be-a-base base"
  | .port => "invalid port number"
  | .host .empty => "empty host"
  | .host .domain => "invalid international domain name"
  | .host .character => "invalid domain character"
  | .host .address4 => "invalid IPv4 address"
  | .host .address6 => "invalid IPv6 address"

end Url

structure Url where
  scheme : String
  username : List Char
  password : List Char
  host : Option (List Char)
  port : Option Nat
  path : Url.Path
  query : Option (List Char)
  fragment : Option (List Char)
  deriving DecidableEq, Inhabited, Repr

namespace Url

def defaultPort? (scheme : String) : Option Nat :=
  if scheme = "http" || scheme = "ws" then some 80
  else if scheme = "https" || scheme = "wss" then some 443
  else if scheme = "ftp" then some 21
  else none

def isFileScheme (scheme : String) : Bool := scheme == "file"

def hasDomains (scheme : String) : Bool := (defaultPort? scheme).isSome

/-- In these schemes a backslash separates segments as a slash does. -/
def isSpecial (scheme : String) : Bool := isFileScheme scheme || hasDomains scheme

def isSlash (c : Char) : Bool := c == '/' || c == '\\'

def isSeparator (scheme : String) (c : Char) : Bool :=
  c == '/' || (c == '\\' && isSpecial scheme)

def pathText : Path -> List Char
  | .plain text => text
  | .rooted text => text

def credentials (url : Url) : List Char :=
  if url.username.isEmpty && url.password.isEmpty then []
  else if url.password.isEmpty then url.username ++ ['@']
  else url.username ++ ':' :: url.password ++ ['@']

def authority (url : Url) : List Char :=
  match url.host with
  | none => []
  | some host =>
      '/' :: '/' :: url.credentials ++ host ++
        (match url.port with
          | some port => ':' :: (toString port).toList
          | none => [])

/-- Keeps a path that starts with two slashes from reading as an authority. -/
def dotGuard (url : Url) : List Char :=
  match url.host, url.path with
  | none, .rooted ('/' :: '/' :: _) => ['/', '.']
  | _, _ => []

def tailText (mark : Char) : Option (List Char) -> List Char
  | some text => mark :: text
  | none => []

def text (url : Url) : String :=
  String.ofList (url.scheme.toList ++ ':' :: url.authority ++ url.dotGuard ++ pathText url.path
    ++ tailText '?' url.query ++ tailText '#' url.fragment)

def trimmed (written : String) : List Char :=
  let isEdge (c : Char) : Bool := c.toNat ≤ 0x20
  ((written.toList.dropWhile isEdge).reverse.dropWhile isEdge).reverse

def isSchemeChar (c : Char) : Bool := c.isAlphanum || ['+', '-', '.'].contains c

def scheme? (text : List Char) : Option (String × List Char) :=
  let isInside (c : Char) : Bool := isSchemeChar c || isBreak c
  match text with
  | [] => none
  | first :: _ =>
      if first.isAlpha then
        match text.dropWhile isInside with
        | ':' :: rest =>
            some (String.ofList ((withoutBreaks (text.takeWhile isInside)).map Host.toLower), rest)
        | _ => none
      else none

structure Reference where
  front : List Char
  query : Option (List Char)
  fragment : Option (List Char)

def cutAt (mark : Char) (text : List Char) : List Char × Option (List Char) :=
  match text.dropWhile (· != mark) with
  | [] => (text, none)
  | _ :: rest => (text.takeWhile (· != mark), some rest)

def reference (scheme : String) (text : List Char) : Reference :=
  let (beforeFragment, fragment) := cutAt '#' text
  let (front, query) := cutAt '?' beforeFragment
  let isEscaped :=
    if isSpecial scheme then Percent.isSpecialQueryEscaped else Percent.isQueryEscaped
  ⟨front, query.map fun text => Percent.encode isEscaped (withoutBreaks text),
    fragment.map fun text => Percent.encode Percent.isFragmentEscaped (withoutBreaks text)⟩

/-- Breaks matter in front of a file reference only. -/
def Reference.solid (ref : Reference) : Reference := { ref with front := withoutBreaks ref.front }

def dropOneSeparator (scheme : String) : List Char -> List Char
  | [] => []
  | c :: rest => if isSeparator scheme c then rest else c :: rest

def walkFrom (scheme : String) (trail : Trail) (text : List Char) : Path :=
  .rooted (Walk.follow (Walk.step false) (Walk.start trail)
    (Walk.split (isSeparator scheme) text)).trail.toText

def fileWalk (trail : Trail) (written : List Char) : Walk :=
  Walk.follow Walk.fileStep (Walk.start trail) (Walk.split isSlash written)

def rootedPath (scheme : String) (text : List Char) : Path :=
  if text.isEmpty && !isSpecial scheme then .rooted []
  else walkFrom scheme Trail.root (dropOneSeparator scheme text)

def lastAt (text : List Char) : Option (List Char × List Char) :=
  match text.reverse.dropWhile (· != '@') with
  | [] => none
  | _ :: before => some (before.reverse, (text.reverse.takeWhile (· != '@')).reverse)

def userinfo (text : List Char) : List Char × List Char :=
  let (name, password) := cutAt ':' text
  (Percent.encode Percent.isUserinfoEscaped name,
    Percent.encode Percent.isUserinfoEscaped (password.getD []))

def hostLength (inBrackets : Bool) : List Char -> Nat
  | [] => 0
  | c :: rest =>
      if c == ':' && !inBrackets then 0
      else 1 + hostLength (if c == '[' then true else if c == ']' then false else inBrackets) rest

def readHost (scheme : String) (text : List Char) : Except Host.Fault (List Char) :=
  if hasDomains scheme then
    if text.isEmpty then .error .empty else Host.readDomain text
  else Host.readFreeForm text

def readPort (scheme : String) (text : List Char) : Except Fault (Option Nat × List Char) :=
  let digits := text.takeWhile Char.isDigit
  let rest := text.dropWhile Char.isDigit
  if rest.isEmpty || (rest.head?.map isSlash).getD false then
    if digits.isEmpty then .ok (none, rest)
    else
      match Host.numberIn? 10 0 digits with
      | some port =>
          if 65535 < port then .error .port
          else .ok (if defaultPort? scheme = some port then none else some port, rest)
      | none => .error .port
  else .error .port

def afterSlashes (scheme : String) (ref : Reference) (text : List Char) : Except Fault Url :=
  let authorityText := text.takeWhile fun c => !isSeparator scheme c
  let pathPart := text.dropWhile fun c => !isSeparator scheme c
  let (info, hostPart) := match lastAt authorityText with
    | some (info, hostPart) => (info, hostPart)
    | none => ([], authorityText)
  let bareAt := authorityText.head? == some '@' && (lastAt authorityText).map (·.1) == some []
  let more := !pathPart.isEmpty || ref.query.isSome || ref.fragment.isSome
  if bareAt && hostPart.isEmpty && more then .error (.host .empty)
  else
    let (username, password) := userinfo info
    let length := hostLength false hostPart
    match readHost scheme (hostPart.take length) with
    | .error fault => .error (.host fault)
    | .ok host =>
        let portPart := hostPart.drop length
        if host.isEmpty && !portPart.isEmpty then .error (.host .empty)
        else
          let port := match portPart with
            | ':' :: digits => readPort scheme (digits ++ pathPart)
            | _ => .ok (none, pathPart)
          match port with
          | .error fault => .error fault
          | .ok (port, rest) =>
              if host.isEmpty && (!username.isEmpty || !password.isEmpty) then
                .error (.host .empty)
              else
                .ok ⟨scheme, username, password, some host, port, rootedPath scheme rest, ref.query,
                  ref.fragment⟩

def trail (url : Url) : Trail :=
  match url.path with
  | .rooted text => Trail.ofText text
  | .plain _ => []

def firstSegment (url : Url) : List Char :=
  match url.path with
  | .rooted text => text.tail.takeWhile (· != '/')
  | .plain _ => []

def withPath (base : Url) (path : Path) (ref : Reference) : Url :=
  { base with path := path, query := ref.query, fragment := ref.fragment }

def sameDocument (base : Url) (ref : Reference) : Url :=
  match ref.query with
  | some query => { base with query := some query, fragment := ref.fragment }
  | none => { base with fragment := ref.fragment }

/-- A reference without scheme, against a base that is no file. An authority comes after two
slashes, or after a whole run of separators that has a backslash among its first two. -/
def relative (base : Url) (ref : Reference) : Except Fault Url :=
  let slashes := ref.front.takeWhile isSlash
  if ref.front.isEmpty then .ok (base.sameDocument ref)
  else if 2 ≤ slashes.length then
    let dropped := if slashes.take 2 == ['/', '/'] then 2 else slashes.length
    afterSlashes base.scheme ref (ref.front.drop dropped)
  else if slashes.length = 1 then
    .ok (base.withPath (walkFrom base.scheme Trail.root ref.front.tail) ref)
  else
    .ok (base.withPath (walkFrom base.scheme (base.trail.parent false).closed ref.front) ref)

def fileUrl (host : List Char) (walk : Walk) (ref : Reference) : Url :=
  ⟨"file", [], [], some host, none, .rooted walk.filePath, ref.query, ref.fragment⟩

def afterSlash? (written : List Char) : Option (List Char) :=
  match written.dropWhile isBreak with
  | c :: rest => if isSlash c then some rest else none
  | [] => none

def fileAfterSlashes (ref : Reference) (written : List Char) : Except Fault Url :=
  let host := withoutBreaks (written.takeWhile fun c => !isSlash c)
  let rest := written.dropWhile fun c => !isSlash c
  if Trail.isDrive host then .ok (fileUrl [] (fileWalk Trail.root written) ref)
  else if host.isEmpty then .ok (fileUrl [] (fileWalk Trail.root rest) ref)
  else
    match Host.readDomain host with
    | .error fault => .error (.host fault)
    | .ok host =>
        if host = "localhost".toList then .ok (fileUrl [] (fileWalk Trail.root rest) ref)
        else
          let walk := fileWalk Trail.root (dropOneSeparator "file" rest)
          .ok (fileUrl (if walk.onDrive then [] else host) walk ref)

/-- What an absolute path takes from a base: its drive, or else its host. -/
def fileRoot (base : Option Url) (text : List Char) : List Char × Trail :=
  match base with
  | none => ([], [])
  | some base =>
      if Trail.startsWithDrive (withoutBreaks text) then ([], [])
      else if Trail.isPlainDrive base.firstSegment then ([], Trail.root.write base.firstSegment)
      else (base.host.getD [], [])

def file (base : Option Url) (ref : Reference) : Except Fault Url :=
  match afterSlash? ref.front with
  | some rest =>
      match afterSlash? rest with
      | some rest => fileAfterSlashes ref rest
      | none =>
          let (host, trail) := fileRoot base rest
          .ok (fileUrl host (fileWalk trail ref.front) ref)
  | none =>
      match base with
      | none => .ok (fileUrl [] (fileWalk Trail.root ref.front) ref)
      | some base =>
          let text := withoutBreaks ref.front
          if text.isEmpty then .ok (base.sameDocument ref)
          else if Trail.startsWithDrive text then
            .ok (fileUrl [] (fileWalk Trail.root ref.front) ref)
          else
            let walk := fileWalk (base.trail.parent true) ref.front
            .ok (base.withPath (.rooted walk.filePath) ref)

def afterScheme (base : Option Url) (scheme : String) (text : List Char) : Except Fault Url :=
  let written := reference scheme text
  let ref := written.solid
  if isFileScheme scheme then file (base.filter fun base => isFileScheme base.scheme) written
  else if hasDomains scheme then
    let slashes := (ref.front.takeWhile isSlash).length
    match base with
    | some base =>
        if slashes < 2 && base.scheme = scheme then base.relative ref
        else afterSlashes scheme ref (ref.front.drop slashes)
    | none => afterSlashes scheme ref (ref.front.drop slashes)
  else
    match ref.front with
    | '/' :: '/' :: rest => afterSlashes scheme ref rest
    | '/' :: rest =>
        .ok ⟨scheme, [], [], none, none, walkFrom scheme Trail.root rest, ref.query, ref.fragment⟩
    | front =>
        .ok ⟨scheme, [], [], none, none, .plain (Percent.encode Percent.isControl front), ref.query,
          ref.fragment⟩

def read (base : Option Url) (written : String) : Except Fault Url :=
  let text := trimmed written
  match scheme? text with
  | some (scheme, rest) => afterScheme base scheme rest
  | none =>
      match base with
      | none => .error .noBase
      | some base =>
          let ref := reference base.scheme text
          match base.path with
          | .plain _ =>
              if text.head? == some '#' then .ok (base.sameDocument ref) else .error .plainBase
          | .rooted _ =>
              if isFileScheme base.scheme then file (some base) ref else base.relative ref.solid

def ofText (written : String) : Except Fault Url := read none written

def join (base : Url) (written : String) : Except Fault Url := read (some base) written

def isRemote (url : Url) : Bool := !isFileScheme url.scheme

end Url

end XmlSchema
