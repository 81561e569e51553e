import XmlSchema.Text.Utf8

set_option autoImplicit false

namespace XmlSchema.Percent

def isControl (c : Char) : Bool := c.toNat < 0x20 || 0x7f ≤ c.toNat

def isFragmentEscaped (c : Char) : Bool :=
  isControl c || [' ', '"', '<', '>', '`'].contains c

def isQueryEscaped (c : Char) : Bool :=
  isControl c || [' ', '"', '#', '<', '>'].contains c

def isSpecialQueryEscaped (c : Char) : Bool :=
  isQueryEscaped c || c == '\''

def isPathEscaped (c : Char) : Bool :=
  isFragmentEscaped c || ['#', '?', '\x7b', '\x7d'].contains c

def isUserinfoEscaped (c : Char) : Bool :=
  isPathEscaped c || ['/', ':', ';', '=', '@', '[', '\\', ']', '^', '|'].contains c

def isFileNameEscaped (c : Char) : Bool :=
  isPathEscaped c || ['/', '%', '\\'].contains c

def digit (n : Nat) : Char :=
  if n < 10 then Char.ofNat (48 + n) else Char.ofNat (55 + n)

def escapeByte (b : UInt8) : List Char :=
  ['%', digit (b.toNat / 16), digit (b.toNat % 16)]

def escapeChar (c : Char) : List Char :=
  (String.utf8EncodeChar c).flatMap escapeByte

def encode (isEscaped : Char -> Bool) (text : List Char) : List Char :=
  text.flatMap fun c => if isEscaped c then escapeChar c else [c]

def digitValue? (b : UInt8) : Option Nat :=
  if 48 ≤ b && b ≤ 57 then some (b.toNat - 48)
  else if 65 ≤ b && b ≤ 70 then some (b.toNat - 55)
  else if 97 ≤ b && b ≤ 102 then some (b.toNat - 87)
  else none

/-- A percent sign without two digits after it stands for itself. -/
def decode : List UInt8 -> List UInt8
  | [] => []
  | b :: rest =>
      if b = 37 then
        match rest with
        | high :: low :: after =>
            match digitValue? high, digitValue? low with
            | some sixteens, some ones => UInt8.ofNat (sixteens * 16 + ones) :: decode after
            | _, _ => b :: decode (high :: low :: after)
        | short => b :: decode short
      else b :: decode rest

end XmlSchema.Percent
