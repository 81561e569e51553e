import XmlSchema.Json
import XmlSchema.Location.Host

set_option autoImplicit false

namespace XmlSchema

namespace Json

def isSpace (c : Char) : Bool := c == ' ' || c == '\n' || c == '\r' || c == '\t'

def skip (text : List Char) : List Char := text.dropWhile isSpace

def unescape? (letter : Char) : Option Char :=
  match letter with
  | '"' => some '"'
  | '\\' => some '\\'
  | '/' => some '/'
  | 'b' => some '\x08'
  | 'f' => some '\x0c'
  | 'n' => some '\n'
  | 'r' => some '\r'
  | 't' => some '\t'
  | _ => none

def codeUnit? (a b c d : Char) : Option Nat := Host.numberIn? 16 0 [a, b, c, d]

/-- A text goes on with these characters, as they are written in a string, and the quote that ends
it, and then with the rest. -/
inductive Spells : List Char -> List Char -> List Char -> Prop where
  | ends (rest : List Char) : Spells [] ('"' :: rest) rest
  | plain {c : Char} {value text rest : List Char} (quote : c ≠ '"') (backslash : c ≠ '\\')
      (printed : 0x20 ≤ c.toNat) (others : Spells value text rest) :
      Spells (c :: value) (c :: text) rest
  | short {letter c : Char} {value text rest : List Char} (stands : unescape? letter = some c)
      (others : Spells value text rest) : Spells (c :: value) ('\\' :: letter :: text) rest
  | unit {a b c d : Char} {code : Nat} {value text rest : List Char}
      (digits : codeUnit? a b c d = some code) (alone : code < 0xd800 ∨ 0xdfff < code)
      (others : Spells value text rest) :
      Spells (Char.ofNat code :: value) ('\\' :: 'u' :: a :: b :: c :: d :: text) rest
  | pair {a b c d e f g h : Char} {high low : Nat} {value text rest : List Char}
      (first : codeUnit? a b c d = some high) (leads : 0xd800 ≤ high ∧ high ≤ 0xdbff)
      (second : codeUnit? e f g h = some low) (trails : 0xdc00 ≤ low ∧ low ≤ 0xdfff)
      (others : Spells value text rest) :
      Spells (Char.ofNat (0x10000 + (high - 0xd800) * 0x400 + (low - 0xdc00)) :: value)
        ('\\' :: 'u' :: a :: b :: c :: d :: '\\' :: 'u' :: e :: f :: g :: h :: text) rest

/-- No number goes on with the first character. -/
def Stops (rest : List Char) : Prop :=
  ∀ c, rest.head? = some c -> (c.isDigit || c == '.' || c == 'e' || c == 'E') = false

mutual

/-- A text goes on with a value, and then with the rest. -/
inductive Reads : Json -> List Char -> List Char -> Prop where
  | null {text rest : List Char} (word : skip text = 'n' :: 'u' :: 'l' :: 'l' :: rest) :
      Reads .null text rest
  | holds {text rest : List Char} (word : skip text = 't' :: 'r' :: 'u' :: 'e' :: rest) :
      Reads (.bool true) text rest
  | fails {text rest : List Char} (word : skip text = 'f' :: 'a' :: 'l' :: 's' :: 'e' :: rest) :
      Reads (.bool false) text rest
  | number {value : Nat} {text rest : List Char}
      (digits : skip text = Nat.toDigits 10 value ++ rest) (stops : Stops rest) :
      Reads (.number value) text rest
  | text {value : String} {text inner rest : List Char} (opens : skip text = '"' :: inner)
      (spells : Spells value.toList inner rest) : Reads (.text value) text rest
  | nil {text inner rest : List Char} (opens : skip text = '[' :: inner)
      (closes : skip inner = ']' :: rest) : Reads (.list []) text rest
  | list {item : Json} {items : List Json} {text inner more rest : List Char}
      (opens : skip text = '[' :: inner) (first : Reads item inner more)
      (others : ReadsItems items more rest) : Reads (.list (item :: items)) text rest
  | empty {text inner rest : List Char} (opens : skip text = '\x7b' :: inner)
      (closes : skip inner = '\x7d' :: rest) : Reads (.object []) text rest
  | object {field : String × Json} {fields : List (String × Json)}
      {text inner more rest : List Char}
      (opens : skip text = '\x7b' :: inner) (first : ReadsField field inner more)
      (others : ReadsFields fields more rest) : Reads (.object (field :: fields)) text rest

inductive ReadsItems : List Json -> List Char -> List Char -> Prop where
  | ends {text rest : List Char} (closes : skip text = ']' :: rest) : ReadsItems [] text rest
  | next {item : Json} {items : List Json} {text inner more rest : List Char}
      (comma : skip text = ',' :: inner) (first : Reads item inner more)
      (others : ReadsItems items more rest) : ReadsItems (item :: items) text rest

inductive ReadsField : String × Json -> List Char -> List Char -> Prop where
  | field {key : String} {value : Json} {text inner more body rest : List Char}
      (opens : skip text = '"' :: inner) (spells : Spells key.toList inner more)
      (colon : skip more = ':' :: body) (reads : Reads value body rest) :
      ReadsField (key, value) text rest

inductive ReadsFields : List (String × Json) -> List Char -> List Char -> Prop where
  | ends {text rest : List Char} (closes : skip text = '\x7d' :: rest) : ReadsFields [] text rest
  | next {field : String × Json} {fields : List (String × Json)} {text inner more rest : List Char}
      (comma : skip text = ',' :: inner) (first : ReadsField field inner more)
      (others : ReadsFields fields more rest) : ReadsFields (field :: fields) text rest

end

def Denotes (text : String) (json : Json) : Prop :=
  ∃ rest, Reads json text.toList rest ∧ skip rest = []

theorem Spells.unique {value other text rest more : List Char} (one : Spells value text rest)
    (two : Spells other text more) : value = other ∧ rest = more := by
  induction one generalizing other with
  | ends =>
      cases two with
      | ends => exact ⟨rfl, rfl⟩
      | plain quote => exact absurd rfl quote
  | plain quote backslash _ _ ih =>
      cases two with
      | ends => exact absurd rfl quote
      | plain _ _ _ others => simpa using ih others
      | short => exact absurd rfl backslash
      | unit => exact absurd rfl backslash
      | pair => exact absurd rfl backslash
  | short stands _ ih =>
      cases two with
      | plain _ backslash => exact absurd rfl backslash
      | short again others =>
          cases stands.symm.trans again
          simpa using ih others
      | unit => cases stands
      | pair => cases stands
  | unit digits alone _ ih =>
      cases two with
      | plain _ backslash => exact absurd rfl backslash
      | short stands => cases stands
      | unit again _ others =>
          cases digits.symm.trans again
          simpa using ih others
      | pair first leads =>
          -- A unit that leads a pair is none that stands alone.
          cases digits.symm.trans first
          omega
  | pair first leads second _ _ ih =>
      cases two with
      | plain _ backslash => exact absurd rfl backslash
      | short stands => cases stands
      | unit digits alone =>
          cases first.symm.trans digits
          omega
      | pair again _ last _ others =>
          cases first.symm.trans again
          cases second.symm.trans last
          simpa using ih others

theorem toDigits_cons (value : Nat) :
    ∃ c others, Nat.toDigits 10 value = c :: others ∧ c.isDigit = true := by
  cases written : Nat.toDigits 10 value with
  | nil => exact absurd written Nat.toDigits_ne_nil
  | cons c others =>
      have within : c ∈ Nat.toDigits 10 value := by simp [written]
      exact ⟨c, others, rfl, Nat.isDigit_of_mem_toDigits (by decide) (by decide) within⟩

theorem takeWhile_digits {value : Nat} {rest : List Char} (stops : Stops rest) :
    (Nat.toDigits 10 value ++ rest).takeWhile Char.isDigit = Nat.toDigits 10 value := by
  have digits : ∀ c ∈ Nat.toDigits 10 value, c.isDigit = true := fun c member =>
    Nat.isDigit_of_mem_toDigits (by decide) (by decide) member
  rw [List.takeWhile_append_of_pos digits]
  cases rest with
  | nil => simp
  | cons c rest =>
      -- Of what a number may not be followed by, only the digits matter here.
      have other := stops c rfl
      simp only [Bool.or_eq_false_iff] at other
      simp [other.1.1.1]

theorem digits_unique {value other : Nat} {rest more : List Char} (stops : Stops rest)
    (ends : Stops more) (same : Nat.toDigits 10 value ++ rest = Nat.toDigits 10 other ++ more) :
    value = other ∧ rest = more := by
  have digits : Nat.toDigits 10 value = Nat.toDigits 10 other := by
    rw [← takeWhile_digits stops, same, takeWhile_digits ends]
  have number := congrArg (fun digits => Nat.ofDigitChars 10 digits 0) digits
  simp only [Nat.ofDigitChars_ten_toDigits] at number
  rw [digits] at same
  exact ⟨number, List.append_cancel_left same⟩

inductive Shape where
  | null
  | bool
  | number
  | text
  | list
  | object
  deriving DecidableEq

def shape : Json -> Shape
  | .null => .null
  | .bool _ => .bool
  | .number _ => .number
  | .text _ => .text
  | .list _ => .list
  | .object _ => .object

def begins? (c : Char) : Option Shape :=
  match c with
  | 'n' => some .null
  | 't' => some .bool
  | 'f' => some .bool
  | '"' => some .text
  | '[' => some .list
  | '\x7b' => some .object
  | _ => if c.isDigit then some .number else none

theorem begins?_digit {c : Char} (digit : c.isDigit = true) : begins? c = some .number := by
  unfold begins?
  split <;> first | (simp [digit]; done) | (revert digit; decide)

theorem Reads.begins {json : Json} {text rest : List Char} (reads : Reads json text rest) :
    (skip text).head?.bind begins? = some json.shape := by
  cases reads with
  | @number value _ _ digits _ =>
      obtain ⟨c, others, written, digit⟩ := toDigits_cons value
      rw [digits, written]
      exact begins?_digit digit
  | null word => rw [word]; rfl
  | holds word => rw [word]; rfl
  | fails word => rw [word]; rfl
  | text opens => rw [opens]; rfl
  | nil opens => rw [opens]; rfl
  | list opens => rw [opens]; rfl
  | empty opens => rw [opens]; rfl
  | object opens => rw [opens]; rfl

theorem Reads.not_closed {json : Json} {text rest inner : List Char}
    (reads : Reads json text rest) : skip text ≠ ']' :: inner := by
  intro closed
  have begins := reads.begins
  rw [closed] at begins
  cases begins

theorem ReadsField.not_closed {field : String × Json} {text rest inner : List Char}
    (reads : ReadsField field text rest) : skip text ≠ '\x7d' :: inner := by
  intro closed
  cases reads with
  | field opens => cases opens.symm.trans closed

mutual

/-- A text goes on with no more than one value. -/
theorem Reads.unique {json other : Json} {text rest more : List Char} (one : Reads json text rest)
    (two : Reads other text more) : json = other ∧ rest = more := by
  -- the first character tells the sort of value, which leaves the pairs of cases below
  have shapes : json.shape = other.shape := Option.some.inj (one.begins.symm.trans two.begins)
  cases one with
  | null word =>
      cases two with
      | null again => simpa [word] using again
      | _ => cases shapes
  | holds word =>
      cases two with
      | holds again => simpa [word] using again
      | fails again => cases word.symm.trans again
      | _ => cases shapes
  | fails word =>
      cases two with
      | fails again => simpa [word] using again
      | holds again => cases word.symm.trans again
      | _ => cases shapes
  | number digits stops =>
      cases two with
      | number again ends => simpa using digits_unique stops ends (digits.symm.trans again)
      | _ => cases shapes
  | text opens spells =>
      cases two with
      | text again others =>
          cases opens.symm.trans again
          simpa [String.toList_inj] using spells.unique others
      | _ => cases shapes
  | nil opens closes =>
      cases two with
      | nil again ends =>
          cases opens.symm.trans again
          simpa [closes] using ends
      | list again first =>
          cases opens.symm.trans again
          -- no item begins with the bracket that ends the list
          exact absurd closes first.not_closed
      | _ => cases shapes
  | list opens first others =>
      cases two with
      | nil again ends =>
          cases opens.symm.trans again
          exact absurd ends first.not_closed
      | list again leading further =>
          cases opens.symm.trans again
          obtain ⟨rfl, rfl⟩ := first.unique leading
          obtain ⟨rfl, rfl⟩ := others.unique further
          exact ⟨rfl, rfl⟩
      | _ => cases shapes
  | empty opens closes =>
      cases two with
      | empty again ends =>
          cases opens.symm.trans again
          simpa [closes] using ends
      | object again first =>
          cases opens.symm.trans again
          exact absurd closes first.not_closed
      | _ => cases shapes
  | object opens first others =>
      cases two with
      | empty again ends =>
          cases opens.symm.trans again
          exact absurd ends first.not_closed
      | object again leading further =>
          cases opens.symm.trans again
          obtain ⟨rfl, rfl⟩ := first.unique leading
          obtain ⟨rfl, rfl⟩ := others.unique further
          exact ⟨rfl, rfl⟩
      | _ => cases shapes

theorem ReadsItems.unique {items others : List Json} {text rest more : List Char}
    (one : ReadsItems items text rest) (two : ReadsItems others text more) :
    items = others ∧ rest = more := by
  cases one with
  | ends closes =>
      cases two with
      | ends again => simpa [closes] using again
      | next comma => cases closes.symm.trans comma
  | next comma first later =>
      cases two with
      | ends closes => cases comma.symm.trans closes
      | next again leading further =>
          cases comma.symm.trans again
          obtain ⟨rfl, rfl⟩ := first.unique leading
          obtain ⟨rfl, rfl⟩ := later.unique further
          exact ⟨rfl, rfl⟩

theorem ReadsField.unique {field other : String × Json} {text rest more : List Char}
    (one : ReadsField field text rest) (two : ReadsField other text more) :
    field = other ∧ rest = more := by
  cases one with
  | field opens spells colon reads =>
      cases two with
      | field again others between value =>
          cases opens.symm.trans again
          obtain ⟨key, rfl⟩ := spells.unique others
          cases colon.symm.trans between
          obtain ⟨rfl, rfl⟩ := reads.unique value
          exact ⟨by rw [String.toList_inj.mp key], rfl⟩

theorem ReadsFields.unique {fields others : List (String × Json)} {text rest more : List Char}
    (one : ReadsFields fields text rest) (two : ReadsFields others text more) :
    fields = others ∧ rest = more := by
  cases one with
  | ends closes =>
      cases two with
      | ends again => simpa [closes] using again
      | next comma => cases closes.symm.trans comma
  | next comma first later =>
      cases two with
      | ends closes => cases comma.symm.trans closes
      | next again leading further =>
          cases comma.symm.trans again
          obtain ⟨rfl, rfl⟩ := first.unique leading
          obtain ⟨rfl, rfl⟩ := later.unique further
          exact ⟨rfl, rfl⟩

end

theorem Denotes.unique {text : String} {json other : Json} (one : Denotes text json)
    (two : Denotes text other) : json = other := by
  obtain ⟨_, reads, -⟩ := one
  obtain ⟨_, again, -⟩ := two
  exact (reads.unique again).1

end Json

end XmlSchema
