import XmlSchema.Markup.Construct

set_option autoImplicit false

namespace XmlSchema.Markup

inductive AttributeFault where
  | noEquals (position : Nat)
  | noValue (position : Nat)
  | unquoted (position : Nat)
  | unclosed (position : Nat) (quote : UInt8)
  | duplicated (position earlier : Nat)
  deriving DecidableEq, Repr

def AttributeFault.message : AttributeFault -> String
  | .noEquals position =>
      s!"position {position}: attribute key must be directly followed by `=` or space"
  | .noValue position => s!"position {position}: `=` must be followed by an attribute value"
  | .unquoted position =>
      s!"position {position}: attribute value must be enclosed in `\"` or `'`"
  | .unclosed position quote =>
      s!"position {position}: missing closing quote `" ++ String.ofList [Utf8.narrow quote]
        ++ "` in attribute value"
  | .duplicated position earlier =>
      s!"position {position}: duplicated attribute, previous declaration at position {earlier}"

structure AttributeReader where
  rest : List UInt8
  position : Nat
  seen : List (Nat × List UInt8)

inductive AttributeStep where
  | finished
  | refused (fault : AttributeFault)
  | read (key value : List UInt8) (next : AttributeReader)

namespace AttributeReader

def total (reader : AttributeReader) : Nat := reader.position + reader.rest.length

def isQuote (b : UInt8) : Bool := b == 34 || b == 39

def value (reader : AttributeReader) (key : List UInt8) : AttributeStep :=
  match reader.rest.dropWhile isSpace with
  | [] => .refused (.noValue reader.total)
  | quote :: body =>
      if isQuote quote then
        let text := body.takeWhile (· != quote)
        match body.dropWhile (· != quote) with
        | [] => .refused (.unclosed reader.total quote)
        | _ :: rest => .read key text ⟨rest, reader.total - rest.length, reader.seen⟩
      else .refused (.unquoted (reader.total - (quote :: body).length))

def equals (reader : AttributeReader) (start : Nat) (key : List UInt8) : AttributeStep :=
  match reader.rest.dropWhile isSpace with
  | [] => .refused (.noEquals reader.total)
  | b :: rest =>
      if b = 61 then
        match reader.seen.find? (·.2 == key) with
        | some earlier => .refused (.duplicated start earlier.1)
        | none =>
            value ⟨rest, reader.total - rest.length, reader.seen ++ [(start, key)]⟩ key
      else .refused (.noEquals (reader.total - (b :: rest).length))

def step (reader : AttributeReader) : AttributeStep :=
  match reader.rest.dropWhile isSpace with
  | [] => .finished
  | first :: rest =>
      let inKey (b : UInt8) : Bool := b != 61 && !isSpace b
      let key := first :: rest.takeWhile inKey
      let after := rest.dropWhile inKey
      let start := reader.total - (first :: rest).length
      equals ⟨after, reader.total - after.length, reader.seen⟩ start key

theorem length_value {reader next : AttributeReader} {key name text : List UInt8}
    (read : reader.value key = .read name text next) : next.rest.length < reader.rest.length := by
  unfold value at read
  have spaces := length_dropWhile_le isSpace reader.rest
  split at read
  next => simp at read
  next quote body same =>
    rw [same] at spaces
    split at read
    next =>
      have inner := length_dropWhile_le (· != quote) body
      simp only at read
      split at read
      next => simp at read
      next _ rest found =>
        rw [found] at inner
        simp only [AttributeStep.read.injEq] at read
        rw [← read.2.2]
        simp only [List.length_cons] at spaces inner ⊢
        omega
    next => simp at read

theorem length_equals {reader next : AttributeReader} {start : Nat} {key name text : List UInt8}
    (read : reader.equals start key = .read name text next) :
    next.rest.length < reader.rest.length := by
  unfold equals at read
  have spaces := length_dropWhile_le isSpace reader.rest
  split at read
  next => simp at read
  next b rest same =>
    rw [same] at spaces
    split at read
    next =>
      split at read
      next => simp at read
      next =>
        have used := length_value read
        simp only [List.length_cons] at spaces used ⊢
        omega
    next => simp at read

theorem length_step {reader next : AttributeReader} {key text : List UInt8}
    (read : reader.step = .read key text next) : next.rest.length < reader.rest.length := by
  unfold step at read
  have spaces := length_dropWhile_le isSpace reader.rest
  split at read
  next => simp at read
  next first rest same =>
    rw [same] at spaces
    have used := length_equals read
    have inner := length_dropWhile_le (fun b : UInt8 => b != 61 && !isSpace b) rest
    simp only [List.length_cons] at spaces used ⊢
    omega

end AttributeReader

end XmlSchema.Markup
