import XmlSchema.Location.Domain
import XmlSchema.Location.Percent

set_option autoImplicit false

namespace XmlSchema.Host

open Text

inductive Fault where
  | empty
  | domain
  | character
  | address4
  | address6
  deriving DecidableEq, Repr

def toLower (c : Char) : Char :=
  if 'A' ≤ c && c ≤ 'Z' then Char.ofNat (c.toNat + 32) else c

def hexValue? (c : Char) : Option Nat :=
  if c.isDigit then some (c.toNat - 48)
  else if 'a' ≤ c && c ≤ 'f' then some (c.toNat - 87)
  else if 'A' ≤ c && c ≤ 'F' then some (c.toNat - 55)
  else none

def numberIn? (radix : Nat) : Nat -> List Char -> Option Nat
  | n, [] => some n
  | n, c :: rest =>
      match hexValue? c with
      | some d => if d < radix then numberIn? radix (n * radix + d) rest else none
      | none => none

def addressPart? : List Char -> Option Nat
  | [] => none
  | '0' :: 'x' :: rest => numberIn? 16 0 rest
  | '0' :: 'X' :: rest => numberIn? 16 0 rest
  | '0' :: c :: rest => numberIn? 8 0 (c :: rest)
  | digits => numberIn? 10 0 digits

def dottedParts (text : List Char) : List (List Char) :=
  let parts := splitOn '.' text
  if 1 < parts.length && parts.getLast? == some [] then parts.dropLast else parts

def endsInNumber (text : List Char) : Bool :=
  match (dottedParts text).getLast? with
  | none => false
  | some part => (!part.isEmpty && part.all Char.isDigit) || (addressPart? part).isSome

def bytePlaces : List Nat := [16777216, 65536, 256, 1]

/-- How many addresses the last number has to tell apart, after so many bytes before it. -/
def capacity (before : Nat) : Nat := (4294967296 :: bytePlaces)[before]?.getD 0

/-- The last part fills all the bytes that the parts before it leave. -/
def address4? (text : List Char) : Option Nat :=
  let parts := dottedParts text
  if 4 < parts.length then none
  else
    match parts.mapM addressPart? with
    | none => none
    | some numbers =>
        let before := numbers.dropLast
        match numbers.getLast? with
        | none => none
        | some final =>
            if final < capacity before.length && before.all (· < 256) then
              some ((before.zip bytePlaces).foldl (fun sum part => sum + part.1 * part.2) final)
            else none

def address4Text (address : Nat) : List Char :=
  ".".toList.intercalate
    (bytePlaces.map fun place => (toString (address / place % 256)).toList)

/-- The sixteen-bit pieces of an address, with the place of the double colon. -/
structure Pieces where
  read : List Nat
  gap : Option Nat

/-- A double colon stands for at least one piece. -/
def Pieces.count (pieces : Pieces) : Nat :=
  pieces.read.length + (if pieces.gap.isSome then 1 else 0)

def Pieces.push (pieces : Pieces) (more : List Nat) : Pieces :=
  { pieces with read := pieces.read ++ more }

def Pieces.filled (pieces : Pieces) : Option (List Nat) :=
  match pieces.gap with
  | none => if pieces.read.length = 8 then some pieces.read else none
  | some place =>
      some (pieces.read.take place ++ List.replicate (8 - pieces.read.length) 0
        ++ pieces.read.drop place)

def tailBytes? (text : List Char) : Option (List Nat) :=
  let parts := splitOn '.' text
  if parts.length = 4 then
    parts.mapM fun part =>
      if part.isEmpty || (1 < part.length && part.head? == some '0') || 3 < part.length then none
      else
        match numberIn? 10 0 part with
        | some n => if n < 256 then some n else none
        | none => none
  else none

/-- Reads pieces separated by colons. Every step uses up a character, so `fuel` is the length of
the text. -/
def pieces? : Nat -> Pieces -> List Char -> Option Pieces
  | 0, pieces, text => if text.isEmpty then some pieces else none
  | fuel + 1, pieces, text =>
      if text.isEmpty then some pieces
      else if 8 ≤ pieces.count then none
      else if text.head? == some ':' then
        if pieces.gap.isSome then none
        else pieces? fuel { pieces with gap := some pieces.read.length } text.tail
      else
        let digits := (text.takeWhile fun c => (hexValue? c).isSome).take 4
        let rest := text.drop digits.length
        if digits.isEmpty then none
        else
          match rest with
          | '.' :: _ =>
              if 6 < pieces.count then none
              else
                match tailBytes? text with
                | some [a, b, c, d] => some (pieces.push [a * 256 + b, c * 256 + d])
                | _ => none
          | ':' :: more =>
              if more.isEmpty then none
              else pieces? fuel (pieces.push ((numberIn? 16 0 digits).toList)) more
          | [] => some (pieces.push ((numberIn? 16 0 digits).toList))
          | _ => none

def address6? (text : List Char) : Option (List Nat) :=
  let start : Option (Pieces × List Char) := match text with
    | ':' :: ':' :: rest => some (⟨[], some 0⟩, rest)
    | ':' :: _ => none
    | _ => some (⟨[], none⟩, text)
  match start with
  | none => none
  | some (pieces, rest) => (pieces? rest.length pieces rest).bind Pieces.filled

def zeroRun (pieces : List Nat) : Nat := (pieces.takeWhile (· == 0)).length

def longestZeros (pieces : List Nat) : Option (Nat × Nat) :=
  (List.range pieces.length).foldl
    (fun best start =>
      let length := zeroRun (pieces.drop start)
      match best with
      | some (_, most) => if most < length then some (start, length) else best
      | none => if 1 < length then some (start, length) else none)
    none

def hexText (n : Nat) : List Char := Nat.toDigits 16 n

def address6Text (pieces : List Nat) : List Char :=
  let join (group : List Nat) : List Char := ":".toList.intercalate (group.map hexText)
  match longestZeros pieces with
  | none => join pieces
  | some (start, length) =>
      join (pieces.take start) ++ "::".toList ++ join (pieces.drop (start + length))

def bracketed (text : List Char) : Except Fault (List Char) :=
  match text.getLast? with
  | some ']' =>
      match address6? text.dropLast with
      | some pieces => .ok ('[' :: address6Text pieces ++ [']'])
      | none => .error .address6
  | _ => .error .address6

def isForbiddenInFreeForm (c : Char) : Bool :=
  ['\x00', '\t', '\n', '\r', ' ', '#', '/', ':', '<', '>', '?', '@', '[', '\\', ']', '^',
    '|'].contains c

def domain? (bytes : List UInt8) : Option (List Char) :=
  match Utf8.decode bytes with
  | .ok name => Domain.ascii? name
  | .error _ => none

def readDomain (text : List Char) : Except Fault (List Char) :=
  match text with
  | '[' :: rest => bracketed rest
  | _ =>
      match domain? (Percent.decode (Utf8.encode (String.ofList text))) with
      | none => .error .domain
      | some domain =>
          if domain.isEmpty then .error .empty
          else if endsInNumber domain then
            match address4? domain with
            | some address => .ok (address4Text address)
            | none => .error .address4
          else .ok domain

def readFreeForm (text : List Char) : Except Fault (List Char) :=
  match text with
  | '[' :: rest => bracketed rest
  | _ =>
      if text.any isForbiddenInFreeForm then .error .character
      else .ok (Percent.encode Percent.isControl text)

end XmlSchema.Host
