import XmlSchema.Proofs.Content.Flattening

set_option autoImplicit false

namespace XmlSchema

namespace Kind

def isDerivation : Kind -> Bool
  | .extension => true
  | .restriction => true
  | _ => false

def passes : Kind -> Symbols -> Bool
  | .sequence, .elements => true
  | .all, .elements => true
  | .choice, .elements => true
  | .group, .elements => true
  | .attributeGroup, .attributes => true
  | .complexContent, kind => kind.isMember
  | .simpleContent, kind => kind.isMember
  | .extension, kind => kind.isMember
  | .restriction, kind => kind.isMember
  | _, _ => false

theorem isDerivation_iff (kind : Kind) :
    kind.isDerivation = true ↔ ∃ how : Derivation, kind = how.kind := by
  constructor
  · intro is
    match kind, is with
    | .extension, _ => exact ⟨.extension, rfl⟩
    | .restriction, _ => exact ⟨.restriction, rfl⟩
  · rintro ⟨how, rfl⟩
    cases how <;> rfl

theorem isType_of_isGroup {kind : Kind} (is : kind.isGroup = true) : kind.isType = false := by
  cases kind <;> revert is <;> decide

theorem isType_of_isBody {kind : Kind} (is : kind.isBody = true) : kind.isType = false := by
  cases kind <;> revert is <;> decide

end Kind

namespace Model

def entry (model : Model) (id : NodeId) (kind : Symbols) (name : QName) : Option Definition :=
  (model.scopes.table (model.node id).scope kind).get? name

def derivations (model : Model) (type : NodeId) : List NodeId :=
  ((List.range model.nodes.size).map NodeId.mk).filter fun id =>
    (model.node id).kind.isDerivation ∧ model.enclosing id Kind.isType = some type

/-- A body declares a node under a name: a tag in it has the name or refers to the node, or passes
on a body that declares it. -/
inductive Declares (model : Model) (kind : Symbols) (name : QName) : NodeId -> NodeId -> Prop where
  | named {id body : NodeId} (inside : (model.node id).parent = some body)
      (listed : (model.node id).kind.symbols? = some kind)
      (named : (model.node id).name = some name) : Declares model kind name body id
  | referred {id body target : NodeId} (inside : (model.node id).parent = some body)
      (listed : (model.node id).kind.symbols? = some kind)
      (refers : (model.node id).referent = some target)
      (named : (model.node target).name = some name) : Declares model kind name body target
  | own {id body target : NodeId} (inside : (model.node id).parent = some body)
      (isBody : (model.node id).kind.isBody = true)
      (passes : (model.node id).kind.passes kind = true)
      (inner : Declares model kind name id target) : Declares model kind name body target
  | group {id body group target : NodeId} (inside : (model.node id).parent = some body)
      (isGroup : (model.node id).kind.isGroup = true)
      (passes : (model.node id).kind.passes kind = true)
      (refers : (model.node id).referent = some group)
      (inner : Declares model kind name group target) : Declares model kind name body target

theorem mem_derivations (model : Model) (type id : NodeId) :
    id ∈ model.derivations type ↔
      (model.node id).kind.isDerivation = true ∧ model.enclosing id Kind.isType = some type := by
  simp only [derivations, List.mem_filter, List.mem_map, List.mem_range, decide_eq_true_eq]
  constructor
  · exact And.right
  · intro makes
    refine ⟨⟨id.index, ?_, rfl⟩, makes⟩
    refine Nat.not_le.mp fun outside => ?_
    have kind := makes.1
    rw [node_of_size_le model outside] at kind
    cases kind

theorem isType_of_derivation {model : Model} {type id : NodeId}
    (makes : id ∈ model.derivations type) : (model.node type).kind.isType = true :=
  (enclosing_spec ((mem_derivations ..).mp makes).2).2

section

variable {old new : Model}

theorem Alike.derivations (alike : old.Alike new) (type : NodeId) :
    new.derivations type = old.derivations type := by
  simp only [Model.derivations, alike.size, alike.kind, alike.enclosing]

theorem Alike.attribute (alike : old.Alike new) (id : NodeId) (name : String) :
    (new.node id).attribute? name = (old.node id).attribute? name := by
  simp only [Node.attribute?, alike.attributes]

theorem Declares.mono (alike : old.Alike new)
    (referent : ∀ id target, (old.node id).referent = some target ->
      (new.node id).referent = some target) {kind : Symbols} {name : QName} {body target : NodeId}
    (declares : old.Declares kind name body target) : new.Declares kind name body target := by
  induction declares with
  | named inside listed named =>
      exact .named ((alike.parent _).trans inside) (alike.kind _ ▸ listed)
        ((alike.name _).trans named)
  | referred inside listed refers named =>
      exact .referred ((alike.parent _).trans inside) (alike.kind _ ▸ listed)
        (referent _ _ refers) ((alike.name _).trans named)
  | own inside isBody passes _ ih =>
      exact .own ((alike.parent _).trans inside) (alike.kind _ ▸ isBody) (alike.kind _ ▸ passes) ih
  | group inside isGroup passes refers _ ih =>
      exact .group ((alike.parent _).trans inside) (alike.kind _ ▸ isGroup)
        (alike.kind _ ▸ passes) (referent _ _ refers) ih

end

section

variable {model : Model} {id parent : NodeId} {remainder : Remainder} {kind : Symbols}
  {name : QName} {definition : Definition}

theorem Fits.based_iff (fits : model.Fits id remainder) :
    remainder.base? ≠ none ↔ (model.node id).kind.isDerivation = true := by
  rw [Kind.isDerivation_iff]
  cases remainder with
  | nothing =>
      refine iff_of_false (fun based => based rfl) ?_
      rintro ⟨how, is⟩
      have plain := fits.1
      rw [is] at plain
      cases how <;> cases plain
  | own kinds factor =>
      refine iff_of_false (fun based => based rfl) ?_
      rintro ⟨how, is⟩
      have body : (model.node id).body? = some (kinds, factor) := fits
      unfold Node.body? at body
      rw [is] at body
      cases how <;> cases body
  | body _ target members =>
      refine iff_of_false (fun based => based rfl) ?_
      rintro ⟨how, is⟩
      obtain ⟨-, -, ⟨group, -⟩ | ⟨group, -⟩⟩ := fits <;> rw [is] at group <;> cases how <;> cases group
  | derivation how base => exact iff_of_true (by simp [Remainder.base?]) ⟨how, fits.1⟩
  | inheritance how target written =>
      exact iff_of_true (by simp [Remainder.base?]) ⟨how, fits.1⟩

theorem declares_of_referral (inside : (model.node id).parent = some parent)
    (found : model.referral id kind name = some definition) :
    definition.inherited = false ∧ model.Declares kind name parent definition.target := by
  unfold referral at found
  dsimp only at found
  split at found
  next target refers =>
    obtain ⟨⟨listed, named⟩, same⟩ := Option.ite_none_right_eq_some.mp found
    cases same
    exact ⟨rfl, .referred inside listed refers named⟩
  next => cases found

def Passes (model : Model) (id source : NodeId) : Prop :=
  (model.node id).kind.isBody = true ∧ source = id ∨
    (model.node id).kind.isGroup = true ∧ (model.node id).referent = some source ∧
      (model.node source).kind = (model.node id).kind

theorem Passes.plain {source : NodeId} (passes : model.Passes id source) (shaped : model.Shaped)
    (tag : model.IsTag id) : model.IsTag source ∧ (model.node source).kind ≠ .schema ∧
      (model.node source).kind.isType = false := by
  rcases passes with ⟨isBody, rfl⟩ | ⟨isGroup, -, same⟩
  · refine ⟨tag, ?_, Kind.isType_of_isBody isBody⟩
    intro schema
    rw [schema] at isBody
    cases isBody
  · rw [← same] at isGroup
    have plain := Kind.isType_of_isGroup isGroup
    refine ⟨shaped.tag_of_not_isType plain ?_, ?_, plain⟩ <;>
    · intro is
      rw [is] at isGroup
      cases isGroup

theorem Fits.passes_of_body {kinds : List Symbols} {factor : Occurs}
    (fits : model.Fits id (.own kinds factor)) (member : kind ∈ kinds) :
    (model.node id).kind.isBody = true ∧ (model.node id).kind.passes kind = true := by
  have body : (model.node id).body? = some (kinds, factor) := fits
  unfold Node.body? at body
  split at body <;> cases body <;> rename_i is <;> rw [is] <;> refine ⟨rfl, ?_⟩ <;>
    revert member <;> cases kind <;> decide

theorem Fits.declares (fits : model.Fits id remainder)
    (inside : (model.node id).parent = some parent) (member : kind.isMember = true)
    (bodies : ∀ source definition, model.Passes id source ->
      model.entry source kind name = some definition ->
        definition.inherited = false ∧ model.Declares kind name source definition.target)
    (found : model.offered id remainder kind name = some definition) :
    definition.inherited = false ∧ model.Declares kind name parent definition.target := by
  have copied {source : NodeId} {factor : Occurs} (passes : model.Passes id source)
      (copy : model.copied source kind factor false name = some definition) :
      definition.inherited = false ∧ model.Declares kind name source definition.target := by
    obtain ⟨original, held, rfl⟩ := Option.map_eq_some_iff.mp copy
    exact bodies source original passes held
  have derived {how : Derivation} (is : (model.node id).kind = how.kind)
      (copy : model.copied id kind .once false name = some definition) :
      definition.inherited = false ∧ model.Declares kind name parent definition.target := by
    have isBody : (model.node id).kind.isBody = true := by rw [is]; cases how <;> rfl
    obtain ⟨plain, declares⟩ := copied (Or.inl ⟨isBody, rfl⟩) copy
    exact ⟨plain, .own inside isBody (by rw [is]; cases how <;> exact member) declares⟩
  cases remainder with
  | nothing => cases found
  | own kinds factor =>
      obtain ⟨listed, copy⟩ := Option.ite_none_right_eq_some.mp found
      obtain ⟨isBody, passes⟩ := Fits.passes_of_body fits listed
      obtain ⟨plain, declares⟩ := copied (Or.inl ⟨isBody, rfl⟩) copy
      exact ⟨plain, .own inside isBody passes declares⟩
  | body _ target members =>
      obtain ⟨rfl, copy⟩ := Option.ite_none_right_eq_some.mp found
      obtain ⟨refers, same, is⟩ := fits
      have group : (model.node id).kind.isGroup = true ∧
          (model.node id).kind.passes kind = true := by
        rcases is with ⟨is, rfl⟩ | ⟨is, rfl⟩ <;> rw [is] <;> exact ⟨rfl, rfl⟩
      obtain ⟨plain, declares⟩ := copied (Or.inr ⟨group.1, refers, same⟩) copy
      exact ⟨plain, .group inside group.1 group.2 refers declares⟩
  | derivation how base => exact derived fits.1 found
  | inheritance how target written => exact derived fits.1 found

end

end Model

end XmlSchema
