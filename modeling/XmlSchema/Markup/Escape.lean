import XmlSchema.Markup.Construct
import XmlSchema.Text.Quoted

set_option autoImplicit false

namespace XmlSchema.Markup

inductive EscapeFault where
  | encoding (fault : Utf8.Fault)
  | unterminated (start stop : Nat)
  | unknown (start stop : Nat) (name : String)
  | longHexadecimal
  | hexadecimalDigit (byte : UInt8)
  | longDecimal
  | decimalDigit (byte : UInt8)
  | null (start stop : Nat)
  | codePoint (number : Nat)
  deriving DecidableEq, Repr

def EscapeFault.message : EscapeFault -> String
  | .encoding fault => "Malformed UTF-8 input: " ++ fault.message
  | .unterminated start stop =>
      s!"Error while escaping character at range {start}..{stop}: Cannot find ';' after '&'"
  | .unknown start stop name =>
      s!"Error while escaping character at range {start}..{stop}: Unrecognized escape symbol: "
        ++ Quoted.encode name
  | .longHexadecimal => "Cannot convert hexadecimal to utf8"
  | .hexadecimalDigit byte =>
      "'" ++ String.ofList [Utf8.narrow byte] ++ "' is not a valid hexadecimal character"
  | .longDecimal => "Cannot convert decimal to utf8"
  | .decimalDigit byte =>
      "'" ++ String.ofList [Utf8.narrow byte] ++ "' is not a valid decimal character"
  | .null start stop =>
      s!"Error while escaping character at range {start}..{stop}: Null character entity not allowed"
  | .codePoint number => s!"'{number}' is not a valid codepoint"

def byteLength (text : List Char) : Nat :=
  text.foldl (fun sum c => sum + c.utf8Size) 0

def named? (name : List Char) : Option Char :=
  if name = ['l', 't'] then some '<'
  else if name = ['g', 't'] then some '>'
  else if name = ['a', 'm', 'p'] then some '&'
  else if name = ['a', 'p', 'o', 's'] then some '\''
  else if name = ['q', 'u', 'o', 't'] then some '"'
  else none

def hexadecimalValue? (b : UInt8) : Option Nat :=
  if 48 ≤ b && b ≤ 57 then some (b.toNat - 48)
  else if 97 ≤ b && b ≤ 102 then some (b.toNat - 87)
  else if 65 ≤ b && b ≤ 70 then some (b.toNat - 55)
  else none

def decimalValue? (b : UInt8) : Option Nat :=
  if 48 ≤ b && b ≤ 57 then some (b.toNat - 48) else none

def number (radix : Nat) (value? : UInt8 -> Option Nat) (n : Nat) : List UInt8 -> Except UInt8 Nat
  | [] => .ok n
  | b :: rest =>
      match value? b with
      | some d => number radix value? (n * radix + d) rest
      | none => .error b

def codePoint (digits : List Char) : Except EscapeFault Nat :=
  match digits with
  | 'x' :: rest =>
      let bytes := Utf8.encode (String.ofList rest)
      if 6 < bytes.length then .error .longHexadecimal
      else (number 16 hexadecimalValue? 0 bytes).mapError .hexadecimalDigit
  | _ =>
      let bytes := Utf8.encode (String.ofList digits)
      if 7 < bytes.length then .error .longDecimal
      else (number 10 decimalValue? 0 bytes).mapError .decimalDigit

def referenced (start stop : Nat) (name : List Char) : Except EscapeFault Char :=
  match name with
  | '#' :: digits =>
      match codePoint digits with
      | .error fault => .error fault
      | .ok n =>
          if n = 0 then .error (.null start stop)
          else if n.isValidChar then .ok (Char.ofNat n)
          else .error (.codePoint n)
  | _ =>
      match named? name with
      | some c => .ok c
      | none => .error (.unknown (start + 1) stop (String.ofList name))

def endsName (c : Char) : Bool := c == '&' || c == ';'

def unescapeFrom (total offset : Nat) (read : List Char) (text : List Char) :
    Except EscapeFault (List Char) :=
  match text with
  | [] => .ok read.reverse
  | c :: rest =>
      if c = '&' then
        let name := rest.takeWhile fun c => !endsName c
        match found : rest.dropWhile fun c => !endsName c with
        | ';' :: after =>
            let stop := offset + 1 + byteLength name
            match referenced offset stop name with
            | .error fault => .error fault
            | .ok c =>
                have : after.length < rest.length := by
                  have shorter := length_dropWhile_le (fun c => !endsName c) rest
                  rw [found] at shorter
                  exact shorter
                unescapeFrom total (stop + 1) (c :: read) after
        | _ => .error (.unterminated offset total)
      else unescapeFrom total (offset + c.utf8Size) (c :: read) rest
termination_by text.length
decreasing_by
  · simp only [List.length_cons]; omega
  · simp

def unescape (text : List Char) : Except EscapeFault (List Char) :=
  unescapeFrom (byteLength text) 0 [] text

def readText (bytes : List UInt8) : Except EscapeFault String :=
  match Utf8.decode bytes with
  | .error fault => .error (.encoding fault)
  | .ok text => (unescape text).map String.ofList

end XmlSchema.Markup
