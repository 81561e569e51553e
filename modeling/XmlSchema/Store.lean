import XmlSchema.Compilation.Basic

set_option autoImplicit false

namespace XmlSchema

structure Store where
  documents : Table String (List UInt8)
  redirects : Table String String
  deriving Repr

namespace Store

def empty : Store := ⟨.empty, .empty⟩

/-- The key of a location: its URL in normal form, or the text itself where it is not a URL. -/
def key (written : String) : String :=
  match Url.ofText written with
  | .ok url => url.text
  | .error _ => written

def insert (store : Store) (written : String) (bytes : List UInt8) : Store :=
  { store with documents := store.documents.insert (key written) bytes }

def redirect (store : Store) (written target : String) : Store :=
  { store with redirects := store.redirects.insert (key written) (key target) }

def maxRedirects : Nat := 16

def follow (store : Store) : Nat -> String -> String
  | 0, url => url
  | hops + 1, url =>
      match store.redirects.get? url with
      | some next => store.follow hops next
      | none => url

def fetch (store : Store) : Fetch := fun url =>
  let found := store.follow maxRedirects url.text
  match store.documents.get? found with
  | none => .error (.notFound url.text)
  | some bytes =>
      match Url.ofText found with
      | .error fault => .error (.url fault)
      | .ok canonical => .ok ⟨bytes, canonical⟩

end Store

end XmlSchema
