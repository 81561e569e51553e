set_option autoImplicit false

namespace XmlSchema

inductive Json where
  | null
  | bool (value : Bool)
  | number (value : Nat)
  | text (value : String)
  | list (items : List Json)
  | object (fields : List (String × Json))

namespace Json

def shortEscape? (c : Char) : Option Char :=
  match c with
  | '"' => some '"'
  | '\\' => some '\\'
  | '\x08' => some 'b'
  | '\x0c' => some 'f'
  | '\n' => some 'n'
  | '\r' => some 'r'
  | '\t' => some 't'
  | _ => none

def escape (c : Char) : List Char :=
  match shortEscape? c with
  | some letter => ['\\', letter]
  | none =>
      if c.toNat < 0x20 then
        ['\\', 'u', '0', '0', Nat.digitChar (c.toNat / 16), Nat.digitChar (c.toNat % 16)]
      else [c]

def quoted (value : String) : List Char := '"' :: value.toList.flatMap escape ++ ['"']

inductive Layout where
  | compact
  | spread (depth : Nat)
  deriving DecidableEq, Repr

namespace Layout

def inner : Layout -> Layout
  | .compact => .compact
  | .spread depth => .spread (depth + 1)

def lineBreak : Layout -> List Char
  | .compact => []
  | .spread depth => '\n' :: List.replicate (2 * depth) ' '

def colon : Layout -> List Char
  | .compact => [':']
  | .spread _ => [':', ' ']

end Layout

mutual

/-- Puts the text of a value before what follows it. -/
def write (layout : Layout) : Json -> List Char -> List Char
  | .null, rest => "null".toList ++ rest
  | .bool true, rest => "true".toList ++ rest
  | .bool false, rest => "false".toList ++ rest
  | .number value, rest => Nat.toDigits 10 value ++ rest
  | .text value, rest => quoted value ++ rest
  | .list [], rest => '[' :: ']' :: rest
  | .list (item :: items), rest =>
      '[' :: layout.inner.lineBreak
        ++ write layout.inner item
          (writeItems layout.inner items (layout.lineBreak ++ ']' :: rest))
  | .object [], rest => '\x7b' :: '\x7d' :: rest
  | .object (field :: fields), rest =>
      '\x7b' :: layout.inner.lineBreak
        ++ writeField layout.inner field
          (writeFields layout.inner fields (layout.lineBreak ++ '\x7d' :: rest))

def writeItems (layout : Layout) : List Json -> List Char -> List Char
  | [], rest => rest
  | item :: items, rest =>
      ',' :: layout.lineBreak ++ write layout item (writeItems layout items rest)

def writeField (layout : Layout) : String × Json -> List Char -> List Char
  | (key, value), rest => quoted key ++ layout.colon ++ write layout value rest

def writeFields (layout : Layout) : List (String × Json) -> List Char -> List Char
  | [], rest => rest
  | field :: fields, rest =>
      ',' :: layout.lineBreak ++ writeField layout field (writeFields layout fields rest)

end

def compact (json : Json) : String := String.ofList (write .compact json [])

def pretty (json : Json) : String := String.ofList (write (.spread 0) json [])

end Json

end XmlSchema
