import Mathlib.Logic.Relation
import XmlSchema.Proofs.Resolution.Naming

set_option autoImplicit false

namespace XmlSchema

theorem Kind.isMember_of_symbols {kind : Kind} {symbols : Symbols}
    (boundary : kind.isBoundary = true) (listed : kind.symbols? = some symbols) :
    symbols.isMember = true := by
  cases kind <;> cases boundary <;> cases listed <;> rfl

/-- How far the names of a tag have been followed, and what has come of each of them. -/
structure Inquiry where
  model : Model
  found : List (Symbols × Reference)

namespace Model

def Receives (model : Model) (id : NodeId) (kind : Kind) (owner : NodeId) : Prop :=
  owner = id ∨ (model.node id).kind = kind ∧ model.enclosing id Kind.isType = some owner

def Offers (model : Model) (id : NodeId) (found : List (Symbols × Reference))
    (type : Option TypeRef) : Prop :=
  type = model.namelessType id ∨
    ∃ reference, (.types, reference) ∈ found ∧ type = reference.typeRef?

/-- What is left of the work on a tag is its own body, or about what has been found. -/
def Leaves (model : Model) (id : NodeId) (found : List (Symbols × Reference)) : Remainder -> Prop
  | .nothing => True
  | .own kinds factor => (model.node id).body? = some (kinds, factor)
  | .body name target members =>
      (members = .elements ∨ members = .attributes) ∧
        ∃ kind, (kind, .found name target) ∈ found
  | .derivation _ base => model.Offers id found base
  | .inheritance _ target _ => ∃ name, (.types, .found name target) ∈ found

end Model

/-- One thing that is done with the names of a tag, which were first looked at in the model `start`. -/
inductive Inquiry.Step (start : Model) (id : NodeId) : Inquiry -> Inquiry -> Prop where
  | follow (model : Model) (found : List (Symbols × Reference)) (kind : Symbols)
      (written : String) :
      Step start id ⟨model, found⟩
        ⟨(model.follow id kind written).1, found ++ [(kind, (model.follow id kind written).2)]⟩
  | member {model : Model} {found : List (Symbols × Reference)} {kind : Symbols} {name : QName}
      {target : NodeId} (there : (kind, .found name target) ∈ found)
      (refers : (start.node id).attribute? "ref" ≠ none)
      (boundary : (start.node id).kind.isBoundary = true)
      (kinds : (start.node id).kind.symbols? = some kind)
      (fresh : (model.node id).referent = (start.node id).referent) :
      Step start id ⟨model, found⟩
        ⟨(model.changeNode id fun node => { node with referent := some target }).define
          (model.node id).scope kind ((model.node target).name.getD name) target
          (model.node id).occurs, found⟩
  | group {model : Model} {found : List (Symbols × Reference)} {kind : Symbols} {name : QName}
      {target : NodeId} (there : (kind, .found name target) ∈ found)
      (refers : (start.node id).attribute? "ref" ≠ none)
      (group : (start.node id).kind.isGroup = true)
      (fresh : (model.node id).referent = (start.node id).referent) :
      Step start id ⟨model, found⟩
        ⟨model.changeNode id fun node => { node with referent := some target }, found⟩
  | type {model : Model} {found : List (Symbols × Reference)} {owner : NodeId}
      {type : Option TypeRef} (receives : start.Receives id .list owner)
      (offers : start.Offers id found type) :
      Step start id ⟨model, found⟩ ⟨model.setType owner type, found⟩
  | members {model : Model} {found : List (Symbols × Reference)} {owner : NodeId}
      {types : List TypeRef} (receives : start.Receives id .union owner)
      (offers : ∀ type ∈ types,
        type ∈ (start.node id).memberTypes ∨ start.Offers id found (some type)) :
      Step start id ⟨model, found⟩ ⟨model.setMemberTypes owner types, found⟩
  | head {model : Model} {found : List (Symbols × Reference)} {name : QName} {head : NodeId}
      (there : (.elements, .found name head) ∈ found) :
      Step start id ⟨model, found⟩
        ⟨model.changeNode head fun node => { node with substitutes := node.substitutes ++ [id] },
          found⟩

namespace Model

section

variable {start model : Model} {id : NodeId} {found : List (Symbols × Reference)}

theorem noteUse_cases (model : Model) (id : NodeId) (name : QName) (target : NodeId) :
    model.noteUse id name target = model ∨
      ∃ user used, model.noteUse id name target =
        { model with namespaces := model.namespaces.addReference user used } := by
  unfold noteUse
  split
  next => exact Or.inl rfl
  next =>
    split
    next user used _ _ => exact Or.inr ⟨user, used, rfl⟩
    next => exact Or.inl rfl

theorem nodes_noteUse (model : Model) (id : NodeId) (name : QName) (target : NodeId) :
    (model.noteUse id name target).nodes = model.nodes := by
  rcases noteUse_cases model id name target with same | ⟨user, used, same⟩ <;> rw [same]

theorem nodes_follow (model : Model) (id : NodeId) (kind : Symbols) (written : String) :
    (model.follow id kind written).1.nodes = model.nodes := by
  unfold follow
  cases model.readName id written with
  | error fault => rfl
  | ok name =>
      dsimp only
      cases model.find id kind name with
      | none => rfl
      | some target => exact nodes_noteUse model id name target

theorem node_congr {old new : Model} (same : new.nodes = old.nodes) : new.node = old.node := by
  funext id
  unfold Model.node
  rw [same]

theorem Alike.namelessType {old new : Model} (alike : old.Alike new) (id : NodeId) :
    new.namelessType id = old.namelessType id := by
  have marker (scope : ScopeId) :
      (new.scopes.get scope).typeMarker = (old.scopes.get scope).typeMarker :=
    (congrArg Scope.typeMarker (alike.frame scope) :)
  simp only [Model.namelessType, Scopes.typeOf, marker, alike.scope]

theorem Offers.more {type : Option TypeRef} (offers : start.Offers id found type)
    (more : List (Symbols × Reference)) : start.Offers id (found ++ more) type :=
  offers.imp_right fun ⟨reference, there, same⟩ =>
    ⟨reference, List.mem_append_left more there, same⟩

end

end Model

namespace Inquiry

variable {start : Model} {id : NodeId} {one two : Inquiry}

theorem Step.alike (step : Step start id one two) : one.model.Alike two.model := by
  cases step with
  | follow model found kind written =>
      dsimp only
      exact (Model.Noted.follow model id kind written).alike
  | @member model found kind name target =>
      exact (Model.Alike.changeNode model id (f := fun node => { node with referent := some target })
        fun _ => rfl).trans (.define ..)
  | group => exact .changeNode _ id fun _ => rfl
  | type => exact .changeNode _ _ fun _ => rfl
  | members => exact .changeNode _ _ fun _ => rfl
  | head => exact .changeNode _ _ fun _ => rfl

structure Filed (start : Model) (inquiry : Inquiry) : Prop where
  tables : inquiry.model.Filed
  bears : ∀ {kind : Symbols} {name : QName} {target : NodeId},
    (kind, .found name target) ∈ inquiry.found -> start.Bears kind name target

theorem Step.filed (step : Step start id one two) (alike : start.Alike one.model)
    (filed : one.Filed start) : two.Filed start := by
  have nodes {after : Model} (same : after.scopes = one.model.scopes)
      (also : one.model.Alike after) : after.Filed := by
    unfold Model.Filed
    rw [same]
    exact filed.tables.mono fun kind name target bears => (also.bears kind name target).mpr bears
  cases step with
  | follow model found kind written =>
      have noted := Model.Noted.follow model id kind written
      have leads {name : QName} {target : NodeId} :=
        @Model.bears_follow model filed.tables id target kind written name
      generalize model.follow id kind written = step at noted leads
      refine ⟨nodes noted.scopes noted.alike, fun {among name target} member => ?_⟩
      rcases List.mem_append.mp member with before | last
      · exact filed.bears before
      · obtain ⟨rfl, same⟩ := Prod.mk.inj (List.mem_singleton.mp last)
        exact (alike.bears _ name target).mp (leads same.symm)
  | @member model found kind name target there =>
      have bears := filed.bears there
      have given : (model.node target).name.getD name = name := by
        rw [alike.name, bears.1, Option.getD_some]
      have also := Model.Alike.changeNode model id
        (f := fun node => { node with referent := some target }) fun _ => rfl
      refine ⟨?_, filed.bears⟩
      dsimp only
      rw [given]
      have entered : (model.scopes.define (model.node id).scope kind name target
          (model.node id).occurs).Lead model.Bears :=
        Scopes.Lead.add filed.tables _ ((alike.bears kind name target).mpr bears)
      exact entered.mono fun kind name target bears => (also.bears kind name target).mpr bears
  | group => exact ⟨nodes rfl (.changeNode _ id fun _ => rfl), filed.bears⟩
  | type => exact ⟨nodes rfl (.changeNode _ _ fun _ => rfl), filed.bears⟩
  | members => exact ⟨nodes rfl (.changeNode _ _ fun _ => rfl), filed.bears⟩
  | head => exact ⟨nodes rfl (.changeNode _ _ fun _ => rfl), filed.bears⟩

def Reached (start : Model) (id : NodeId) : Inquiry -> Prop :=
  Relation.ReflTransGen (Step start id) ⟨start, []⟩

namespace Reached

variable {model : Model} {found : List (Symbols × Reference)} {inquiry : Inquiry}

theorem alike (reached : Reached start id inquiry) : start.Alike inquiry.model := by
  induction reached with
  | refl => exact .refl start
  | tail _ step ih => exact ih.trans step.alike

theorem step (reached : Reached start id one) (step : Step start id one two) :
    Reached start id two :=
  Relation.ReflTransGen.tail reached step

theorem keeps {P : Inquiry -> Prop} (reached : Reached start id inquiry) (before : P ⟨start, []⟩)
    (step : ∀ {one two : Inquiry}, Reached start id one -> Step start id one two -> P one -> P two) :
    P inquiry := by
  induction reached with
  | refl => exact before
  | tail reached next ih => exact step reached next ih

theorem filed (reached : Reached start id inquiry) (filed : start.Filed) : inquiry.Filed start :=
  reached.keeps ⟨filed, nofun⟩ fun reached step before => step.filed (alike reached) before

theorem follow (reached : Reached start id ⟨model, found⟩) (kind : Symbols) (written : String) :
    Reached start id
      ⟨(model.follow id kind written).1, found ++ [(kind, (model.follow id kind written).2)]⟩ :=
  reached.step (.follow model found kind written)

theorem followType (reached : Reached start id ⟨model, found⟩) (written : String) :
    ∃ more, Reached start id ⟨(model.followType id written).1, found ++ more⟩ ∧
      start.Offers id (found ++ more) (model.followType id written).2 := by
  have followed := reached.follow .types written
  unfold Model.followType
  generalize model.follow id .types written = step at followed ⊢
  exact ⟨[(.types, step.2)], followed, .inr ⟨step.2, List.mem_concat_self, rfl⟩⟩

theorem followTypes (reached : Reached start id ⟨model, found⟩) {types : List TypeRef}
    (offers : ∀ type ∈ types, start.Offers id found (some type)) (written : List String) :
    ∃ found, Reached start id ⟨(model.followTypes id types written).1, found⟩ ∧
      ∀ type ∈ (model.followTypes id types written).2, start.Offers id found (some type) := by
  induction written generalizing model found types with
  | nil => exact ⟨found, reached, offers⟩
  | cons first rest ih =>
      obtain ⟨more, followed, offered⟩ := reached.followType first
      unfold Model.followTypes
      refine ih followed fun type member => ?_
      rcases List.mem_append.mp member with earlier | new
      · exact (offers type earlier).more more
      · exact Option.mem_toList.mp new ▸ offered

theorem typeByAttribute (reached : Reached start id ⟨model, found⟩) (label : String) :
    ∃ found, Reached start id ⟨(model.typeByAttribute id label).1, found⟩ ∧
      start.Offers id found (model.typeByAttribute id label).2 := by
  unfold Model.typeByAttribute
  split
  next written _ =>
    obtain ⟨more, followed, offered⟩ := reached.followType written
    exact ⟨found ++ more, followed, offered⟩
  next => exact ⟨found, reached, .inl (reached.alike.namelessType id)⟩

theorem followMember {kind : Symbols} (boundary : (start.node id).kind.isBoundary = true)
    (kinds : (start.node id).kind.symbols? = some kind) {written : String}
    (refers : (start.node id).attribute? "ref" = some written) :
    ∃ found, Reached start id ⟨start.followMember id kind written, found⟩ := by
  have followed := follow (.refl : Reached start id ⟨start, []⟩) kind written
  have same := Model.node_congr (Model.nodes_follow start id kind written)
  unfold Model.followMember
  generalize start.follow id kind written = step at followed same ⊢
  obtain ⟨after, reference⟩ := step
  cases reference with
  | found name target =>
      exact ⟨_, followed.step (.member List.mem_concat_self (by rw [refers]; nofun) boundary kinds
        (by rw [same]))⟩
  | malformed => exact ⟨_, followed⟩
  | absent name => exact ⟨_, followed⟩

theorem followMemberType (reached : Reached start id ⟨model, found⟩) :
    ∃ found, Reached start id ⟨model.followMemberType id, found⟩ := by
  unfold Model.followMemberType
  dsimp only
  split
  next written _ =>
    obtain ⟨more, followed, offered⟩ := reached.followType written
    exact ⟨found ++ more, followed.step (.type (.inl rfl) offered)⟩
  next type _ nameless =>
    refine ⟨found, reached.step (.type (.inl rfl) (.inl ?_))⟩
    rw [← nameless, reached.alike.namelessType]
  next => exact ⟨found, reached⟩

theorem followHead (reached : Reached start id ⟨model, found⟩) (written : String) :
    ∃ found, Reached start id ⟨model.followHead id written, found⟩ := by
  have followed := reached.follow .elements written
  unfold Model.followHead
  generalize model.follow id .elements written = step at followed ⊢
  obtain ⟨after, reference⟩ := step
  cases reference with
  | found name target => exact ⟨_, followed.step (.head List.mem_concat_self)⟩
  | malformed => exact ⟨_, followed⟩
  | absent name => exact ⟨_, followed⟩

theorem resolveMember {kind : Symbols} (boundary : (start.node id).kind.isBoundary = true)
    (kinds : (start.node id).kind.symbols? = some kind) :
    ∃ found, Reached start id ⟨start.resolveMember id kind, found⟩ := by
  unfold Model.resolveMember
  extract_lets node entered typed
  obtain ⟨asked, reached⟩ : ∃ asked, Reached start id ⟨entered, asked⟩ := by
    unfold entered
    split
    next written refers => exact followMember boundary kinds refers
    next => exact ⟨[], .refl⟩
  obtain ⟨found, reached⟩ := reached.followMemberType
  split
  next written _ => exact reached.followHead written
  next => exact ⟨found, reached⟩

theorem prepareGroup (group : (start.node id).kind.isGroup = true) (kind : Symbols)
    {members : Symbols} (among : members = .elements ∨ members = .attributes) :
    ∃ found, Reached start id ⟨(start.prepareGroup id kind members).1, found⟩ ∧
      start.Leaves id found (start.prepareGroup id kind members).2 := by
  unfold Model.prepareGroup
  split
  next => exact ⟨[], .refl, trivial⟩
  next written refers =>
    have followed := follow (.refl : Reached start id ⟨start, []⟩) kind written
    have same := Model.node_congr (Model.nodes_follow start id kind written)
    generalize start.follow id kind written = step at followed same ⊢
    obtain ⟨after, reference⟩ := step
    cases reference with
    | found name target =>
        exact ⟨_, followed.step (.group List.mem_concat_self (by rw [refers]; nofun) group
          (by rw [same])), among, kind, List.mem_concat_self⟩
    | malformed => exact ⟨_, followed, trivial⟩
    | absent name => exact ⟨_, followed, trivial⟩

theorem prepareDerivation (start : Model) (id : NodeId) (how : Derivation) :
    ∃ found, Reached start id ⟨(start.prepareDerivation id how).1, found⟩ ∧
      start.Leaves id found (start.prepareDerivation id how).2 := by
  unfold Model.prepareDerivation
  split
  next => exact ⟨[], .refl, .inl rfl⟩
  next written _ =>
    have followed := follow (.refl : Reached start id ⟨start, []⟩) .types written
    unfold Model.followType
    generalize start.follow id .types written = step at followed ⊢
    obtain ⟨after, reference⟩ := step
    cases reference with
    | found name target => exact ⟨_, followed, name, List.mem_concat_self⟩
    | malformed => exact ⟨_, followed, .inr ⟨.malformed, List.mem_concat_self, rfl⟩⟩
    | absent name => exact ⟨_, followed, .inr ⟨.absent name, List.mem_concat_self, rfl⟩⟩

theorem resolveList (kind : (start.node id).kind = .list) :
    ∃ found, Reached start id ⟨start.resolveList id, found⟩ := by
  obtain ⟨found, followed, offered⟩ :=
    typeByAttribute (.refl : Reached start id ⟨start, []⟩) "itemtype"
  have typed := followed.step (.type (.inl rfl) offered)
  unfold Model.resolveList
  dsimp only
  split
  next owner around =>
    rw [typed.alike.enclosing] at around
    exact ⟨found, typed.step (.type (.inr ⟨kind, around⟩) offered)⟩
  next => exact ⟨found, typed⟩

theorem resolveUnion (kind : (start.node id).kind = .union) :
    ∃ found, Reached start id ⟨start.resolveUnion id, found⟩ := by
  unfold Model.resolveUnion
  dsimp only
  generalize (((start.node id).attribute? "membertypes").map Text.words).getD [] = written
  obtain ⟨found, followed, offered⟩ := @followTypes start id start [] .refl [] nofun written
  have known : ∀ type ∈ (start.followTypes id [] written).2 ++ (start.node id).memberTypes,
      type ∈ (start.node id).memberTypes ∨ start.Offers id found (some type) := by
    intro type member
    exact (List.mem_append.mp member).symm.imp_right (offered type)
  have typed := followed.step (.members (.inl rfl) known)
  split
  next owner around =>
    rw [typed.alike.enclosing] at around
    exact ⟨found, typed.step (.members (.inr ⟨kind, around⟩) known)⟩
  next => exact ⟨found, typed⟩

theorem prepare (start : Model) (id : NodeId) :
    ∃ found, Reached start id ⟨(start.prepare id).1, found⟩ ∧
      start.Leaves id found (start.prepare id).2 := by
  have idle {remainder : Remainder} (leaves : start.Leaves id [] remainder) :
      ∃ found, Reached start id ⟨start, found⟩ ∧ start.Leaves id found remainder :=
    ⟨[], .refl, leaves⟩
  have done {after : Model} (reached : ∃ found, Reached start id ⟨after, found⟩) :
      ∃ found, Reached start id ⟨after, found⟩ ∧ start.Leaves id found .nothing :=
    reached.imp fun _ reached => ⟨reached, trivial⟩
  unfold Model.prepare
  dsimp only
  cases kind : (start.node id).kind with
  | element => exact done (resolveMember (by rw [kind]; rfl) (by rw [kind]; rfl))
  | attributeTag => exact done (resolveMember (by rw [kind]; rfl) (by rw [kind]; rfl))
  | group => exact prepareGroup (by rw [kind]; rfl) .groups (.inl rfl)
  | attributeGroup => exact prepareGroup (by rw [kind]; rfl) .attributeGroups (.inr rfl)
  | extension => exact prepareDerivation start id .extension
  | restriction => exact prepareDerivation start id .restriction
  | list => exact done (resolveList kind)
  | union => exact done (resolveUnion kind)
  | sequence | all | choice | complexContent | simpleContent =>
      exact idle (by simp only [Model.Leaves, Node.body?, kind])
  | _ => exact idle trivial

end Reached

end Inquiry

end XmlSchema
