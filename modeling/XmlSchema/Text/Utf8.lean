set_option autoImplicit false

namespace XmlSchema.Utf8

/-- Where bytes stop being UTF-8. Without a length the bytes end inside a character. -/
structure Fault where
  index : Nat
  length : Option Nat
  deriving DecidableEq, Repr

def Fault.message (fault : Fault) : String :=
  match fault.length with
  | some n => s!"invalid utf-8 sequence of {n} bytes from index {fault.index}"
  | none => s!"incomplete utf-8 byte sequence from index {fault.index}"

def isTail (b : UInt8) : Bool :=
  0x80 ≤ b && b ≤ 0xbf

def tails? (lead : UInt8) : Option Nat :=
  if lead < 0x80 then some 0
  else if 0xc2 ≤ lead && lead ≤ 0xdf then some 1
  else if 0xe0 ≤ lead && lead ≤ 0xef then some 2
  else if 0xf0 ≤ lead && lead ≤ 0xf4 then some 3
  else none

/-- The second byte is narrowed where it would spell a longer form than needed, a surrogate, or a
number above the last code point. -/
def isSecond (lead second : UInt8) : Bool :=
  if lead = 0xe0 then 0xa0 ≤ second && second ≤ 0xbf
  else if lead = 0xed then 0x80 ≤ second && second ≤ 0x9f
  else if lead = 0xf0 then 0x90 ≤ second && second ≤ 0xbf
  else if lead = 0xf4 then 0x80 ≤ second && second ≤ 0x8f
  else isTail second

def payload (b : UInt8) : Nat :=
  b.toNat % 64

def decodeFrom (index : Nat) (read : List Char) : List UInt8 -> Except Fault (List Char)
  | [] => .ok read.reverse
  | lead :: rest =>
      let refuse {α : Type} (length : Option Nat) : Except Fault α := .error ⟨index, length⟩
      match tails? lead with
      | none => refuse (some 1)
      | some 0 => decodeFrom (index + 1) (Char.ofNat lead.toNat :: read) rest
      | some count =>
          match rest with
          | [] => refuse none
          | second :: rest =>
              if !isSecond lead second then refuse (some 1)
              else if count = 1 then
                decodeFrom (index + 2)
                  (Char.ofNat (lead.toNat % 32 * 64 + payload second) :: read) rest
              else
                match rest with
                | [] => refuse none
                | third :: rest =>
                    if !isTail third then refuse (some 2)
                    else if count = 2 then
                      decodeFrom (index + 3)
                        (Char.ofNat
                          ((lead.toNat % 16 * 64 + payload second) * 64 + payload third) :: read)
                        rest
                    else
                      match rest with
                      | [] => refuse none
                      | fourth :: rest =>
                          if !isTail fourth then refuse (some 3)
                          else
                            decodeFrom (index + 4)
                              (Char.ofNat
                                (((lead.toNat % 8 * 64 + payload second) * 64 + payload third) * 64
                                  + payload fourth) :: read)
                              rest

def decode (bytes : List UInt8) : Except Fault (List Char) :=
  decodeFrom 0 [] bytes

def decodeText (bytes : List UInt8) : Except Fault String :=
  (decode bytes).map String.ofList

/-- The text of bytes that need not be UTF-8: each refused sequence reads as the replacement
character. -/
def decodeLossy (bytes : List UInt8) : List Char :=
  match decode bytes with
  | .ok text => text
  | .error fault =>
      let before := match decode (bytes.take fault.index) with
        | .ok text => text
        | .error _ => []
      let skipped := max 1 (fault.index + (fault.length.getD bytes.length))
      match bytes with
      | [] => before
      | b :: rest => before ++ '\ufffd' :: decodeLossy ((b :: rest).drop skipped)
termination_by bytes.length
decreasing_by simp only [List.length_drop, List.length_cons]; omega

def encode (text : String) : List UInt8 :=
  text.toUTF8.toList

def narrow (b : UInt8) : Char :=
  Char.ofNat b.toNat

end XmlSchema.Utf8
