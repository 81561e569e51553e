import XmlSchema.Compilation.Gathering
import XmlSchema.Proofs.Reading.Rearrangement

set_option autoImplicit false

namespace XmlSchema

def Fetched.Rearranges (first second : Fetched) : Prop :=
  first.canonical = second.canonical ∧ first.bytes.length = second.bytes.length ∧
    (Markup.scan first.bytes).Rearranges (Markup.scan second.bytes)

def Fetch.Rearranges (fetch other : Fetch) : Prop :=
  ∀ url, match fetch url, other url with
    | .ok first, .ok second => first.Rearranges second
    | .error first, .error second => first = second
    | _, _ => False

namespace Compilation

theorem parse_rearranges {first second : Fetched} (same : first.Rearranges second)
    (options : Options) (compilation : Compilation) (requested : Url) (adopted : Option String) :
    compilation.parse options requested adopted first =
      compilation.parse options requested adopted second := by
  obtain ⟨canonical, -, scans⟩ := same
  simp only [parse, canonical, Draft.read_rearranges scans]

theorem receive_rearranges {first second : Fetched} (same : first.Rearranges second)
    (options : Options) (compilation : Compilation) (requested : Url) (adopted : Option String) :
    compilation.receive options requested adopted first =
      compilation.receive options requested adopted second := by
  simp only [receive, same.1, same.2.1, parse_rearranges same]

theorem load_rearranges {fetch other : Fetch} (same : Fetch.Rearranges fetch other)
    (options : Options) (compilation : Compilation) (url : Url) (adopted : Option String) :
    compilation.load options fetch url adopted = compilation.load options other url adopted := by
  have here := same url
  unfold load
  cases first : fetch url <;> cases second : other url <;> rw [first, second] at here
  · rw [here]
  · exact here.elim
  · exact here.elim
  · simp only [receive_rearranges here]

end Compilation

namespace Gathering

theorem serve_rearranges {fetch other : Fetch} (same : Fetch.Rearranges fetch other)
    (options : Options) (compilation : Compilation) (request : Request) (rest : List Request) :
    serve options fetch compilation request rest = serve options other compilation request rest := by
  simp only [serve, Compilation.load_rearranges same]

theorem run_rearranges {fetch other : Fetch} (same : Fetch.Rearranges fetch other)
    (options : Options) (compilation : Compilation) (requests : List Request) :
    run options fetch compilation requests = run options other compilation requests := by
  fun_induction run options fetch compilation requests with
  | case1 compilation => rw [run]
  | case2 compilation request rest next ih =>
    rw [ih]
    conv_rhs => rw [run, ← serve_rearranges same]

theorem start_rearranges {fetch other : Fetch} (same : Fetch.Rearranges fetch other)
    (options : Options) (url : Url) : start options fetch url = start options other url := by
  simp only [start, Compilation.load_rearranges same]

end Gathering

/-- The order of attributes is of no matter where no two of a tag have names that are equal but for
case: events are read to the same state or the same failure, and so is a document, and a compilation
is the same as a whole. Nor does it matter in which order the table of prefixes lists its entries. -/
theorem compile_rearranges :
    (∀ (limits : Limits) (reading : Reading) (first second : List Markup.Item),
      List.Forall₂ Markup.Item.Rearranges first second ->
        reading.steps limits first = reading.steps limits second) ∧
    (∀ (limits : Limits) (draft : Draft) (first second : List UInt8),
      (Markup.scan first).Rearranges (Markup.scan second) ->
        draft.read limits first = draft.read limits second) ∧
    (∀ (options : Options) (fetch other : Fetch), Fetch.Rearranges fetch other ->
      ∀ url, compile options fetch url = compile options other url) ∧
    ∀ (adopted : Option String) (attributes listing : List (String × String)),
      listing.Perm (Document.rootPrefixes adopted attributes).bound ->
        (∀ label, Prefixes.find label listing =
          Prefixes.find label (Document.rootPrefixes adopted attributes).bound) ∧
        ∀ model : Model, model.registerPrefixes (Prefixes.inOrder listing) =
          model.registerPrefixes (Document.rootPrefixes adopted attributes).bound := by
  refine ⟨fun limits reading first second same => Reading.steps_rearranges same limits reading,
    fun limits draft first second same => Draft.read_rearranges same limits draft,
    fun options fetch other same url => ?_, fun adopted attributes listing perm => ?_⟩
  · simp only [compile, Gathering.start_rearranges same, Gathering.run_rearranges same]
  · have sorted := Document.sorted_rootPrefixes adopted attributes
    exact ⟨fun label => sorted.find_eq perm label, fun model => by rw [sorted.inOrder_eq perm]⟩

def Fetch.always (text : String) : Fetch := fun url => .ok ⟨Utf8.encode text, url⟩

def targetFirst : String :=
  "<x:schema targetNamespace=\"urn:a\" xmlns:x=\"http://www.w3.org/2001/XMLSchema\"/>"

def targetLast : String :=
  "<x:schema xmlns:x=\"http://www.w3.org/2001/XMLSchema\" targetNamespace=\"urn:a\"/>"

theorem compile_rearranges_target :
    Fetch.Rearranges (.always targetFirst) (.always targetLast) ∧
      compile .standard (.always targetFirst) default =
        compile .standard (.always targetLast) default := by
  have first : Markup.scan (Utf8.encode targetFirst) =
      ⟨[⟨1, .ok (.opens "x:schema" [("targetNamespace", "urn:a"), ("xmlns:x", schemaUri)])⟩,
        ⟨1, .ok (.closes "x:schema")⟩], 1⟩ := by
    with_unfolding_all rfl
  have last : Markup.scan (Utf8.encode targetLast) =
      ⟨[⟨1, .ok (.opens "x:schema" [("xmlns:x", schemaUri), ("targetNamespace", "urn:a")])⟩,
        ⟨1, .ok (.closes "x:schema")⟩], 1⟩ := by
    with_unfolding_all rfl
  have size : (Utf8.encode targetFirst).length = (Utf8.encode targetLast).length := by
    decide +kernel
  have same : Fetch.Rearranges (.always targetFirst) (.always targetLast) := by
    intro url
    refine ⟨rfl, size, ?_⟩
    rw [first, last]
    refine ⟨.cons ⟨rfl, .inr ⟨_, _, _, rfl, rfl, .swap .., ?_⟩⟩ (.cons ⟨rfl, .inl rfl⟩ .nil), rfl⟩
    decide +kernel
  exact ⟨same, compile_rearranges.2.2.1 _ _ _ same default⟩

end XmlSchema
