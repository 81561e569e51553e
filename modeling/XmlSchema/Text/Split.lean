set_option autoImplicit false

namespace XmlSchema.Text

def splitOn (separator : Char) : List Char -> List (List Char)
  | [] => [[]]
  | c :: rest =>
      if c = separator then [] :: splitOn separator rest
      else
        match splitOn separator rest with
        | [] => [[c]]
        | part :: parts => (c :: part) :: parts

end XmlSchema.Text
