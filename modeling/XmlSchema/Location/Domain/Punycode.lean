set_option autoImplicit false

namespace XmlSchema.Punycode

def base : Nat := 36

def isNumber32 (n : Nat) : Bool := n < 4294967296

def digit? (c : Char) : Option Nat :=
  if 'a' ≤ c && c ≤ 'z' then some (c.toNat - 97)
  else if '0' ≤ c && c ≤ '9' then some (c.toNat - 22)
  else none

def digit (n : Nat) : Char :=
  if n < 26 then Char.ofNat (n + 97) else Char.ofNat (n + 22)

def threshold (bias place : Nat) : Nat := max 1 (min 26 (place - bias))

def number? (bias place weight sum : Nat) : List Char -> Option (Nat × List Char)
  | [] => none
  | c :: rest =>
      match digit? c with
      | none => none
      | some d =>
          let sum := sum + d * weight
          let t := threshold bias place
          let heavier := weight * (base - t)
          if !isNumber32 sum then none
          else if d < t then some (sum, rest)
          else if !isNumber32 heavier then none
          else number? bias (place + base) heavier sum rest

def digits (bias place n : Nat) : List Char :=
  let t := threshold bias place
  if n < t then [digit n]
  else digit (t + (n - t) % (base - t)) :: digits bias (place + base) ((n - t) / (base - t))
termination_by n
decreasing_by
  have least : 1 ≤ threshold bias place := by simp only [threshold]; omega
  exact Nat.lt_of_le_of_lt (Nat.div_le_self _ _) (by omega)

def adaptFrom (k delta : Nat) : Nat :=
  if 455 < delta then adaptFrom (k + base) (delta / 35) else k + base * delta / (delta + 38)
termination_by delta
decreasing_by omega

/-- The bias after a number, when so many characters are there. -/
def adapt (delta count : Nat) (isFirst : Bool) : Nat :=
  let delta := if isFirst then delta / 700 else delta / 2
  adaptFrom 0 (delta + delta / count)

theorem length_number? {bias place weight sum total : Nat} {text rest : List Char}
    (read : number? bias place weight sum text = some (total, rest)) :
    rest.length < text.length := by
  induction text generalizing place weight sum with
  | nil => simp [number?] at read
  | cons c tail ih =>
      simp only [number?] at read
      split at read
      next => simp at read
      next =>
        split at read
        next => simp at read
        next =>
          split at read
          next =>
            simp only [Option.some.injEq, Prod.mk.injEq] at read
            simp [← read.2]
          next =>
            split at read
            next => simp at read
            next => exact Nat.lt_succ_of_lt (ih read)

/-- Puts into `text` what the numbers of the spelling tell, from a pair on. -/
def insert? (bias point place : Nat) (text spelling : List Char) : Option (List Char) :=
  if spelling.isEmpty then some text
  else
    match _found : number? bias base 1 place spelling with
    | none => none
    | some (sum, rest) =>
        let count := text.length + 1
        let point := point + sum / count
        let here := sum % count
        if point.isValidChar then
          insert? (adapt (sum - place) count (place == 0)) point (here + 1)
            (text.insertIdx here (Char.ofNat point)) rest
        else none
termination_by spelling.length
decreasing_by exact length_number? _found

def splitPlain (spelling : List Char) : List Char × List Char :=
  match spelling.reverse.dropWhile (· != '-') with
  | [] | [_] => ([], spelling)
  | _ :: before => (before.reverse, (spelling.reverse.takeWhile (· != '-')).reverse)

def initialBias : Nat := 72

def initialPoint : Nat := 128

def isAscii (c : Char) : Bool := c.toNat < initialPoint

def read? (spelling : List Char) : Option (List Char) :=
  let (plain, numbers) := splitPlain spelling
  insert? initialBias initialPoint 0 plain numbers

def points (text : List Char) : List Nat :=
  ((text.filter fun c => !isAscii c).map Char.toNat).mergeSort.eraseDups

/-- Where the characters of a code point go, after those before them in the order. -/
def places (text : List Char) (point : Nat) : List Nat :=
  let met := text.zipIdx.filter fun entry => entry.1.toNat == point
  met.map fun entry => (text.take entry.2).countP fun c => c.toNat ≤ point

/-- The numbers that lead from a pair through the other pairs, in a text of `count` characters. -/
def numbers (bias point place count : Nat) : List (Nat × Nat) -> List Char
  | [] => []
  | (nextPoint, nextPlace) :: rest =>
      let count := count + 1
      let step := (nextPoint - point) * count + nextPlace - place
      digits bias base step ++
        numbers (adapt step count (place == 0)) nextPoint (nextPlace + 1) count rest

def write (text : List Char) : List Char :=
  let plain := text.filter isAscii
  let pairs := (points text).flatMap fun point => (places text point).map (point, ·)
  (if plain.isEmpty then [] else plain ++ ['-'])
    ++ numbers initialBias initialPoint 0 plain.length pairs

end XmlSchema.Punycode
