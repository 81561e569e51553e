import XmlSchema.Proofs.Reading.Moves
import XmlSchema.Proofs.Registering

set_option autoImplicit false

namespace XmlSchema

theorem Url.text_ne_empty (url : Url) : url.text ≠ "" := by
  intro empty
  have letters := congrArg String.toList empty
  unfold text at letters
  rw [String.toList_ofList] at letters
  simp at letters

namespace Namespaces

variable {namespaces : Namespaces} {scopes : Scopes} {name : String} {short : Option String}

theorem nonempty_text (url : Url) : nonempty (some url.text) = some url.text :=
  Option.filter_eq_some_iff.mpr ⟨rfl, decide_eq_true url.text_ne_empty⟩

theorem findByUrl_of_register {place : String} {id : NamespaceId}
    (found : (namespaces.register scopes (some name) none short).namespaces.findByUrl place =
      some id) : namespaces.findByUrl place = some id :=
  (findByUrl_register scopes found).resolve_right fun given => by cases given.1

end Namespaces

namespace Model

structure Labelled (model : Model) : Prop where
  namespaces : model.namespaces.Labelled
  sources : ∀ source : SourceId, source.index < model.sources.size ->
    (model.namespaces.get (model.source source).target).name =
        some ((model.source source).prefixes.targetUri.getD "") ∧
      (model.namespaces.get (model.source source).target).url ≠ none

structure Learns (old new : Model) : Prop where
  sources : new.sources = old.sources
  labelled : old.namespaces.Labelled -> new.namespaces.Labelled
  indexed : old.namespaces.Indexed -> new.namespaces.Indexed
  extends_ : old.namespaces.Extends new.namespaces
  findByUrl : ∀ {url id}, new.namespaces.findByUrl url = some id ->
    old.namespaces.findByUrl url = some id

namespace Learns

variable {old new : Model}

theorem of_same (sources : new.sources = old.sources)
    (namespaces : new.namespaces = old.namespaces) : old.Learns new where
  sources := sources
  labelled labelled := namespaces ▸ labelled
  indexed indexed := namespaces ▸ indexed
  extends_ := namespaces ▸ .refl _
  findByUrl found := namespaces ▸ found

theorem trans {middle : Model} (first : old.Learns middle) (second : middle.Learns new) :
    old.Learns new where
  sources := second.sources.trans first.sources
  labelled labelled := second.labelled (first.labelled labelled)
  indexed indexed := second.indexed (first.indexed indexed)
  extends_ := first.extends_.trans second.extends_
  findByUrl found := first.findByUrl (second.findByUrl found)

theorem register (model : Model) (name : String) (short : Option String) :
    model.Learns (model.register (some name) none short).1 where
  sources := rfl
  labelled labelled := labelled.register model.scopes name none short
  indexed indexed := indexed.register model.scopes (some name) none short
  extends_ := .register ..
  findByUrl := Namespaces.findByUrl_of_register

theorem registerPrefixes (model : Model) (bound : List (String × String)) :
    model.Learns (model.registerPrefixes bound) := by
  induction bound generalizing model with
  | nil => exact of_same rfl rfl
  | cons entry rest ih => exact (register model entry.2 (some entry.1)).trans (ih _)

theorem registerDefault (model : Model) (uri : Option String) :
    model.Learns (model.registerDefault uri).1 := by
  unfold Model.registerDefault
  split
  · exact register model _ none
  · exact of_same rfl rfl

theorem registerImport (draft : Draft) (id : NodeId) :
    draft.model.Learns (draft.registerImport id).model := by
  unfold Draft.registerImport
  split
  · exact register draft.model _ none
  · exact of_same rfl rfl

theorem addSource (model : Model) (id : NamespaceId) (source : SourceId) :
    model.Learns { model with namespaces := model.namespaces.addSource id source } where
  sources := rfl
  labelled labelled := labelled.change id (fun _ => rfl) fun _ => rfl
  indexed indexed := indexed.congr
    (fun other => Namespaces.keeps_change Namespace.name model.namespaces id other fun _ => rfl)
    (fun other => Namespaces.keeps_change Namespace.url model.namespaces id other fun _ => rfl)
    rfl rfl
  extends_ := .change _ id (fun _ => rfl) fun _ => rfl
  findByUrl found := found

end Learns

theorem Labelled.learn {old new : Model} (labelled : old.Labelled) (learns : old.Learns new) :
    new.Labelled where
  namespaces := learns.labelled labelled.namespaces
  sources source within := by
    unfold Model.source
    rw [learns.sources] at within ⊢
    obtain ⟨name, url⟩ := labelled.sources source within
    exact ⟨learns.extends_.name _ _ name, learns.extends_.url _ url⟩

theorem indexed_registerRoot {model : Model} (indexed : model.namespaces.Indexed)
    (document : Document) : (model.registerRoot document).1.namespaces.Indexed :=
  ((Learns.registerPrefixes _ (document.prefixes.getD .empty).bound).trans
    (Learns.registerDefault _ (document.prefixes.getD .empty).defaultUri)).indexed
      (indexed.register ..)

theorem labelled_empty : empty.Labelled where
  namespaces := (Namespaces.labelled_empty Builtin.scope).register Builtin.scopes ..
  sources _ within := absurd within (Nat.not_lt_zero _)

end Model

namespace Document

def Adopts (document : Document) : Prop := document.isChameleon = true ∧ document.adopted ≠ none

/-- Where a URL could lead the target namespace of a document to is new, or the name of that
namespace is known. -/
def Ready (document : Document) (namespaces : Namespaces) : Prop :=
  document.prefixes ≠ none -> namespaces.find (document.targetUri.getD "") ≠ none ∨
    namespaces.findByUrl document.url.text = none

theorem targetUri_of_header {old new : Document} (same : new.header = old.header) :
    new.targetUri = old.targetUri :=
  (congrArg targetUri same :)

end Document

namespace Draft

structure Labelled (start : Namespaces) (draft : Draft) : Prop where
  model : draft.model.Labelled
  extends_ : start.Extends draft.model.namespaces
  unread : draft.document.prefixes = none -> draft.document.source = none
  untold : draft.document.source = none -> draft.model.namespaces = start
  told : draft.document.source ≠ none ->
    draft.model.namespaces.Located (draft.document.targetUri.getD "")
  urls : ∀ url id, draft.model.namespaces.findByUrl url = some id ->
    start.findByUrl url = some id ∨ url = draft.document.url.text ∧
      (draft.model.namespaces.get id).name = some (draft.document.targetUri.getD "") ∧
        ¬ draft.document.Adopts
  own : draft.document.prefixes ≠ none -> draft.document.isChameleon = true ->
    draft.document.targetUri = draft.document.adopted
  plain : draft.document.adopted ≠ some ""
  lent : ∀ name, draft.document.adopted = some name -> start.Located name

section

variable {start : Namespaces} {draft new : Draft} {id : NodeId}

theorem Labelled.learn (labelled : draft.Labelled start) (learns : draft.model.Learns new.model)
    (header : new.document.header = draft.document.header)
    (source : new.document.source = draft.document.source)
    (begun : new.document.source = none -> new.model.namespaces = draft.model.namespaces) :
    new.Labelled start := by
  have prefixes := Document.prefixes_of_header header
  have target := Document.targetUri_of_header header
  have url : new.document.url = draft.document.url := (congrArg Document.url header :)
  have adopted : new.document.adopted = draft.document.adopted :=
    (congrArg Document.adopted header :)
  have chameleon : new.document.isChameleon = draft.document.isChameleon :=
    (congrArg Document.isChameleon header :)
  constructor
  case model => exact labelled.model.learn learns
  case extends_ => exact labelled.extends_.trans learns.extends_
  case untold => exact fun none_ => (begun none_).trans (labelled.untold (source ▸ none_))
  case told =>
    rw [source, target]
    exact fun there => learns.extends_.located (labelled.told there)
  case urls =>
    intro place home found
    simp only [url, target, Document.Adopts, chameleon, adopted]
    refine (labelled.urls place home (learns.findByUrl found)).imp_right ?_
    exact fun ⟨same, name, own⟩ => ⟨same, learns.extends_.name _ _ name, own⟩
  all_goals simp only [prefixes, source, chameleon, target, adopted]
  case unread => exact labelled.unread
  case own => exact labelled.own
  case plain => exact labelled.plain
  case lent => exact labelled.lent

theorem Labelled.withRoot (labelled : draft.Labelled start)
    (attributes : List (String × String)) :
    Labelled start ⟨draft.model, draft.document.withRoot attributes⟩ := by
  by_cases read : draft.document.prefixes = none
  next =>
    have unsourced := labelled.unread read
    have known := labelled.untold unsourced
    have rooted : draft.document.withRoot attributes =
        { draft.document with
          prefixes := some (Document.rootPrefixes draft.document.adopted attributes)
          isChameleon := !Document.declaresTarget attributes } := by
      unfold Document.withRoot
      rw [read]
    rw [rooted]
    refine ⟨labelled.model, labelled.extends_, nofun, fun _ => known, absurd unsourced,
      fun place home found => .inl (known ▸ found), fun _ chameleon => ?_, labelled.plain,
      labelled.lent⟩
    refine (Document.targetUri_rootPrefixes _ ((Bool.not_eq_true' _).mp chameleon)).trans ?_
    have plain := labelled.plain
    cases adopted : draft.document.adopted with
    | none => rfl
    | some uri =>
        refine Option.filter_eq_some_iff.mpr ⟨rfl, decide_eq_true fun empty => plain ?_⟩
        rw [adopted, empty]
  next =>
    rw [Document.withRoot_of_read read]
    exact labelled

structure Enrolled (start : Namespaces) (document : Document) (namespaces : Namespaces)
    (target : NamespaceId) : Prop where
  labelled : namespaces.Labelled
  extends_ : start.Extends namespaces
  name : (namespaces.get target).name = some (document.targetUri.getD "")
  url : (namespaces.get target).url ≠ none
  urls : ∀ url id, namespaces.findByUrl url = some id -> start.findByUrl url = some id ∨
    url = document.url.text ∧ (namespaces.get id).name = some (document.targetUri.getD "") ∧
      ¬ document.Adopts

theorem Enrolled.learn {document : Document} {old new : Model} {target : NamespaceId}
    (enrolled : Enrolled start document old.namespaces target) (learns : old.Learns new) :
    Enrolled start document new.namespaces target where
  labelled := learns.labelled enrolled.labelled
  extends_ := enrolled.extends_.trans learns.extends_
  name := learns.extends_.name _ _ enrolled.name
  url := learns.extends_.url _ enrolled.url
  urls url id found := by
    refine (enrolled.urls url id (learns.findByUrl found)).imp_right ?_
    exact fun ⟨same, name, own⟩ => ⟨same, learns.extends_.name _ _ name, own⟩

theorem Labelled.enroll (labelled : draft.Labelled start) (read : draft.document.prefixes ≠ none)
    (ready : draft.document.Ready start) (unsourced : draft.document.source = none) :
    Enrolled start draft.document
      (draft.model.register (some (draft.document.targetUri.getD "")) (some draft.document.url.text)
        none).1.namespaces
      (draft.model.register (some (draft.document.targetUri.getD "")) (some draft.document.url.text)
        none).2 := by
  have namespaces := labelled.model.namespaces
  have known := labelled.untold unsourced
  have given := Namespaces.nonempty_text draft.document.url
  have name := @Namespaces.name_register draft.model.namespaces (draft.document.targetUri.getD "")
    (some draft.document.url.text) none namespaces draft.model.scopes (by
      rw [known, given]
      exact ready read)
  refine ⟨namespaces.register .., known ▸ .register .., name,
    Namespaces.url_register namespaces _ given, fun place id found => ?_⟩
  rcases Namespaces.findByUrl_register _ found with before | ⟨same, rfl, unlocated⟩
  next => exact .inl (known ▸ before)
  next =>
    refine .inr ⟨(Option.some.inj (given.symm.trans same)).symm, name, fun ⟨chameleon, adopts⟩ => ?_⟩
    -- the document that hands on its namespace has said already where that is
    obtain ⟨uri, adopted⟩ := Option.ne_none_iff_exists'.mp adopts
    obtain ⟨home, found, located⟩ := labelled.lent uri adopted
    have target : draft.document.targetUri.getD "" = uri := by
      rw [labelled.own read chameleon, adopted]
      rfl
    rw [← known, ← target] at found
    rw [Namespaces.id_register_of_find _ found, known] at unlocated
    exact located unlocated

theorem Labelled.declareSource (labelled : draft.Labelled start)
    (read : draft.document.prefixes ≠ none) (ready : draft.document.Ready start)
    (unsourced : draft.document.source = none) :
    Labelled start ⟨(draft.model.declareSource draft.document id).1,
      { draft.document with source := some (draft.model.declareSource draft.document id).2 }⟩ := by
  have target : (draft.document.prefixes.getD .empty).targetUri = draft.document.targetUri := by
    unfold Document.targetUri
    cases bound : draft.document.prefixes with
    | none => exact absurd bound read
    | some prefixes => rfl
  have sources := (draft.model.stores_registerRoot draft.document).2
  have enrolled := labelled.enroll read ready unsourced
  rw [← target] at enrolled
  -- prefixes and the default namespace are made known by their names alone
  have enrolled := enrolled.learn
    ((Model.Learns.registerPrefixes _ (draft.document.prefixes.getD .empty).bound).trans
      (Model.Learns.registerDefault _ (draft.document.prefixes.getD .empty).defaultUri))
  change Enrolled start draft.document (draft.model.registerRoot draft.document).1.namespaces
    (draft.model.newSource draft.document).target at enrolled
  have prefixes : (draft.model.newSource draft.document).prefixes.targetUri =
      draft.document.targetUri := target
  rw [Model.declareSource_eq]
  generalize (draft.model.registerRoot draft.document).1 = root at *
  generalize draft.model.newSource draft.document = source at *
  have enrolled := enrolled.learn (.addSource root source.target ⟨root.sources.size⟩)
  refine ⟨⟨enrolled.labelled, fun other within => ?_⟩, enrolled.extends_, fun none_ => absurd none_ read,
    nofun, fun _ => ⟨source.target, ?_, enrolled.url⟩, enrolled.urls, labelled.own, labelled.plain,
    labelled.lent⟩
  · have count : (root.sources.push source).size = root.sources.size + 1 := Array.size_push ..
    dsimp only [Model.source, Model.changeNode] at within ⊢
    rw [Model.getD_push_source]
    split
    next =>
      rw [prefixes]
      exact ⟨enrolled.name, enrolled.url⟩
    next earlier =>
      have before : other.index < draft.model.sources.size := by
        rw [← sources]
        omega
      have same : root.source other = draft.model.source other := by
        unfold Model.source
        rw [sources]
      rw [same]
      obtain ⟨name, url⟩ := labelled.model.sources other before
      rw [labelled.untold unsourced] at name url
      exact ⟨enrolled.extends_.name _ _ name, enrolled.extends_.url _ url⟩
  · exact (enrolled.labelled.find _ _).mpr enrolled.name

theorem Move.indexed {attempt : Attempt Draft} (move : draft.Move attempt)
    (indexed : draft.model.namespaces.Indexed) : attempt.state.model.namespaces.Indexed := by
  cases move with
  | root attributes => exact indexed
  | still model tasks still => exact still.namespaces ▸ indexed
  | body outer skipped => exact indexed
  | tag outer node =>
      have added : (draft.withTag outer node).model.namespaces.Indexed := indexed
      have tells := tells_declare (draft.withTag outer node) draft.model.nextNode
      generalize ((draft.withTag outer node).declare draft.model.nextNode).state = told at tells ⊢
      cases tells with
      | source =>
          rw [Model.declareSource_eq]
          exact (Model.Learns.addSource ..).indexed (Model.indexed_registerRoot added _)
      | second => exact added
      | request => exact (Model.Learns.registerImport ..).indexed added
      | other =>
          have retains := Model.retains_declare (draft.withTag outer node).model draft.model.nextNode
          exact retains.namespaces ▸ added

theorem Move.header {attempt : Attempt Draft} (move : draft.Move attempt)
    (read : draft.document.prefixes ≠ none) :
    attempt.state.document.header = draft.document.header := by
  cases move with
  | root attributes => exact congrArg Document.header (Document.withRoot_of_read read attributes)
  | still => rfl
  | body => rfl
  | tag outer node => exact header_declare (draft.withTag outer node) draft.model.nextNode

theorem Move.ready {attempt : Attempt Draft} (move : draft.Move attempt)
    (ready : attempt.state.document.Ready start) : draft.document.Ready start := by
  intro read
  have header := move.header read
  have url : attempt.state.document.url = draft.document.url := (congrArg Document.url header :)
  unfold Document.Ready at ready
  rw [Document.prefixes_of_header header, Document.targetUri_of_header header, url] at ready
  exact ready read

theorem Move.labelled {attempt : Attempt Draft} (move : draft.Move attempt)
    (labelled : draft.Labelled start) (ready : draft.document.Ready start) :
    attempt.state.Labelled start := by
  cases move with
  | root attributes => exact labelled.withRoot attributes
  | still model tasks still =>
      exact labelled.learn (.of_same still.sources still.namespaces) rfl rfl fun _ => still.namespaces
  | body outer skipped => exact labelled.learn (.of_same rfl rfl) rfl rfl fun _ => rfl
  | tag outer node fresh scope source read outermost inside =>
      have added : (draft.withTag outer node).Labelled start :=
        labelled.learn (.of_same rfl rfl) rfl rfl fun _ => rfl
      have begun (kind : ((draft.withTag outer node).model.node draft.model.nextNode).kind ≠
          .schema) : draft.document.source ≠ none := fun none_ =>
        kind ((kind_withTag ..).trans (outermost none_))
      have tells := tells_declare (draft.withTag outer node) draft.model.nextNode
      generalize ((draft.withTag outer node).declare draft.model.nextNode).state = told at tells ⊢
      cases tells with
      | source kind unsourced => exact added.declareSource read ready unsourced
      | second => exact added
      | request kind imports =>
          exact added.learn (.registerImport ..) rfl rfl fun none_ => absurd none_ (begun kind)
      | other =>
          have retains := Model.retains_declare (draft.withTag outer node).model draft.model.nextNode
          exact added.learn (.of_same retains.sources retains.namespaces) rfl rfl
            fun _ => retains.namespaces

theorem labelled_moves (labelled : draft.Labelled start) {attempt : Attempt Draft}
    (moves : draft.Moves attempt) (ready : attempt.state.document.Ready start) :
    attempt.state.Labelled start :=
  @Moves.keeps _ _ moves (fun draft => draft.document.Ready start -> draft.Labelled start)
    (fun _ => labelled)
    (fun move before ready => move.labelled (before (move.ready ready)) (move.ready ready)) ready

end

end Draft

end XmlSchema
