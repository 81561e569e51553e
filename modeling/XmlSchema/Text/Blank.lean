set_option autoImplicit false

namespace XmlSchema.Text

def blanks : List Char :=
  ['\x09', '\x0a', '\x0b', '\x0c', '\x0d', ' ', '\u0085', '\u00a0', '\u1680', '\u2000', '\u2001',
    '\u2002', '\u2003', '\u2004', '\u2005', '\u2006', '\u2007', '\u2008', '\u2009', '\u200a',
    '\u2028', '\u2029', '\u202f', '\u205f', '\u3000']

def isBlank (c : Char) : Bool :=
  blanks.contains c

def dropBlanks (text : List Char) : List Char :=
  text.dropWhile isBlank

def trimmed (text : List Char) : List Char :=
  (dropBlanks (dropBlanks text).reverse).reverse

def trim (text : String) : String :=
  String.ofList (trimmed text.toList)

def wordsFrom (word : List Char) : List Char -> List String
  | [] => if word.isEmpty then [] else [String.ofList word.reverse]
  | c :: rest =>
      if isBlank c then
        if word.isEmpty then wordsFrom [] rest
        else String.ofList word.reverse :: wordsFrom [] rest
      else wordsFrom (c :: word) rest

def words (text : String) : List String :=
  wordsFrom [] text.toList

theorem isBlank_head_dropBlanks (text : List Char) (c : Char) (rest : List Char)
    (shape : dropBlanks text = c :: rest) : isBlank c = false := by
  induction text with
  | nil => simp [dropBlanks] at shape
  | cons head tail ih =>
      simp only [dropBlanks, List.dropWhile_cons] at shape
      split at shape
      next => exact ih shape
      next solid =>
        simp only [List.cons.injEq] at shape
        simpa [shape.1] using solid

end XmlSchema.Text
