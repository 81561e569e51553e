import XmlSchema.Proofs.Content.Contribution
import XmlSchema.Proofs.Resolution.Notes

set_option autoImplicit false

namespace XmlSchema

namespace Kind

def isBody : Kind -> Bool
  | .sequence => true
  | .all => true
  | .choice => true
  | .complexContent => true
  | .simpleContent => true
  | .extension => true
  | .restriction => true
  | _ => false

def isGroup : Kind -> Bool
  | .group => true
  | .attributeGroup => true
  | _ => false

variable {kind : Kind}

theorem isDeferred_of_isBody (body : kind.isBody = true) : kind.isDeferred = true := by
  cases kind <;> revert body <;> decide

theorem isDeferred_of_isGroup (group : kind.isGroup = true) : kind.isDeferred = true := by
  cases kind <;> revert group <;> decide

theorem isBoundary_of_isBody (body : kind.isBody = true) : kind.isBoundary = false := by
  cases kind <;> revert body <;> decide

end Kind

namespace Derivation

def kind : Derivation -> Kind
  | .extension => .extension
  | .restriction => .restriction

end Derivation

namespace Node

def body? (node : Node) : Option (List Symbols × Occurs) :=
  match node.kind with
  | .sequence => some ([.elements], node.occurs)
  | .all => some ([.elements], node.occurs)
  | .choice => some ([.elements], node.occurs.optionalized)
  | .complexContent => some ([.elements, .attributes], .once)
  | .simpleContent => some ([.elements, .attributes], .once)
  | _ => none

end Node

namespace Model

def referral (model : Model) (id : NodeId) (kind : Symbols) (name : QName) : Option Definition :=
  let node := model.node id
  match node.referent with
  | some target =>
      if node.kind.symbols? = some kind ∧ (model.node target).name = some name then
        some ⟨target, node.occurs, false⟩
      else none
  | none => none

theorem own_referral (model : Model) (id : NodeId) (kind : Symbols) (name : QName) :
    Definition.own (model.referral id kind name) = model.referred kind id name := by
  unfold referral referred
  cases refers : (model.node id).referent with
  | none => simp [refers, Definition.own]
  | some target =>
      simp only [refers, Option.bind_some]
      split <;> rfl

def Fits (model : Model) (id : NodeId) (remainder : Remainder) : Prop :=
  let node := model.node id
  match remainder with
  | .nothing => node.kind.isBody = false ∧ (node.kind.isGroup = true -> node.referent = none)
  | .own kinds factor => node.body? = some (kinds, factor)
  | .body _ target members =>
      node.referent = some target ∧ (model.node target).kind = node.kind ∧
        (node.kind = .group ∧ members = .elements ∨
          node.kind = .attributeGroup ∧ members = .attributes)
  | .derivation how base =>
      node.kind = how.kind ∧
        ∀ target, base = some (.resolved target) -> node.attribute? "base" = none
  | .inheritance how target written =>
      node.kind = how.kind ∧ node.attribute? "base" = some written ∧
        (model.node target).kind.isType = true

structure Prepared (old new : Model) (id : NodeId) (remainder : Remainder) : Prop where
  alike : old.Alike new
  queue : new.queue = old.queue
  order : new.order = old.order
  unresolved : ∀ entry ∈ old.unresolved, entry ∈ new.unresolved
  resolved : ∀ other, (new.node other).isResolved = (old.node other).isResolved
  base : ∀ other, (new.node other).base = (old.node other).base
  referent : ∀ other, other ≠ id -> (new.node other).referent = (old.node other).referent
  filed : new.Filed
  grows : old.scopes.Grows new.scopes
  tables : ∀ scope kind name, kind.isMember = true ->
    (new.scopes.table scope kind).get? name =
      Definition.join
        (if scope = old.scopes.surrounding (old.node id).scope then new.referral id kind name
          else none)
        ((old.scopes.table scope kind).get? name)
  elsewhere : ∀ scope kind, scope ≠ old.scopes.surrounding (old.node id).scope ->
    new.scopes.table scope kind = old.scopes.table scope kind
  fits : new.Fits id remainder

section

variable {old new : Model} {id : NodeId} {remainder : Remainder}

theorem Noted.filed (noted : old.Noted new) (filed : old.Filed) : new.Filed := by
  unfold Filed
  rw [noted.scopes]
  exact filed.mono fun kind name target bears => (noted.alike.bears kind name target).mpr bears

theorem Noted.grows (noted : old.Noted new) : old.scopes.Grows new.scopes := by
  rw [noted.scopes]
  exact .refl _

theorem Noted.referent (noted : old.Noted new) (id : NodeId) :
    (new.node id).referent = (old.node id).referent :=
  (congrArg Node.referent (noted.core id) :)

theorem Noted.referral (noted : old.Noted new) (id : NodeId) (kind : Symbols) (name : QName) :
    new.referral id kind name = old.referral id kind name := by
  simp only [Model.referral, noted.referent, noted.alike.kind, noted.alike.name,
    noted.alike.occurs]

theorem Fits.congr (fits : old.Fits id remainder) (alike : old.Alike new)
    (referent : (new.node id).referent = (old.node id).referent) : new.Fits id remainder := by
  unfold Fits at fits ⊢
  simpa only [Node.body?, Node.attribute?, referent, alike.kind, alike.occurs, alike.attributes]
    using fits

theorem Noted.prepared (noted : old.Noted new) (filed : old.Filed) (fresh : (old.node id).referent = none) (fits : new.Fits id remainder) :
    old.Prepared new id remainder where
  alike := noted.alike
  queue := noted.queue
  order := noted.order
  unresolved := noted.unresolved
  resolved other := (congrArg Node.isResolved (noted.core other) :)
  base other := (congrArg Node.base (noted.core other) :)
  referent other _ := noted.referent other
  filed := noted.filed filed
  grows := noted.grows
  tables scope kind name _ := by
    simp [Model.referral, noted.referent, fresh, noted.scopes]
  elsewhere scope kind _ := by rw [noted.scopes]
  fits := fits

theorem Prepared.after {middle : Model} (noted : old.Noted middle)
    (prepared : middle.Prepared new id remainder) : old.Prepared new id remainder where
  alike := noted.alike.trans prepared.alike
  queue := prepared.queue.trans noted.queue
  order := prepared.order.trans noted.order
  unresolved entry member := prepared.unresolved entry (noted.unresolved entry member)
  resolved other :=
    (prepared.resolved other).trans (congrArg Node.isResolved (noted.core other) :)
  base other := (prepared.base other).trans (congrArg Node.base (noted.core other) :)
  referent other apart := (prepared.referent other apart).trans (noted.referent other)
  filed := prepared.filed
  grows := noted.grows.trans prepared.grows
  tables scope kind name member := by
    rw [prepared.tables scope kind name member, noted.scopes, noted.alike.scope]
  elsewhere scope kind apart := by
    rw [← noted.scopes, ← noted.alike.scope] at apart
    rw [prepared.elsewhere scope kind apart, noted.scopes]
  fits := prepared.fits

theorem Prepared.before {middle : Model} (prepared : old.Prepared middle id remainder)
    (noted : middle.Noted new) : old.Prepared new id remainder where
  alike := prepared.alike.trans noted.alike
  queue := noted.queue.trans prepared.queue
  order := noted.order.trans prepared.order
  unresolved entry member := noted.unresolved entry (prepared.unresolved entry member)
  resolved other :=
    (congrArg Node.isResolved (noted.core other) :).trans (prepared.resolved other)
  base other := (congrArg Node.base (noted.core other) :).trans (prepared.base other)
  referent other apart := (noted.referent other).trans (prepared.referent other apart)
  filed := noted.filed prepared.filed
  grows := prepared.grows.trans noted.grows
  tables scope kind name member := by
    rw [noted.scopes, noted.referral, prepared.tables scope kind name member]
  elsewhere scope kind apart := by
    rw [noted.scopes, prepared.elsewhere scope kind apart]
  fits := prepared.fits.congr noted.alike (noted.referent id)

end

theorem referral_of_referent {model : Model} {id target : NodeId}
    (refers : (model.node id).referent = some target) (kind : Symbols) (name : QName) :
    model.referral id kind name =
      if (model.node id).kind.symbols? = some kind ∧ (model.node target).name = some name then
        some ⟨target, (model.node id).occurs, false⟩
      else none := by
  simp only [referral, refers]

structure GivesReferent (old new : Model) (id target : NodeId) : Prop where
  alike : old.Alike new
  queue : new.queue = old.queue
  order : new.order = old.order
  unresolved : new.unresolved = old.unresolved
  node : ∀ other, new.node other =
    if other = id ∧ other.index < old.nodes.size then
      { old.node other with referent := some target }
    else old.node other

namespace GivesReferent

variable {old new : Model} {id target : NodeId}

theorem keeps {α : Type} (gives : old.GivesReferent new id target) (look : Node -> α)
    (same : ∀ node, look { node with referent := some target } = look node) (other : NodeId) :
    look (new.node other) = look (old.node other) := by
  rw [gives.node]
  split
  · exact same _
  · rfl

theorem referent_of_ne (gives : old.GivesReferent new id target) {other : NodeId} (apart : other ≠ id) :
    (new.node other).referent = (old.node other).referent := by
  simp [gives.node, apart]

theorem referent (gives : old.GivesReferent new id target) (tag : old.IsTag id) :
    (new.node id).referent = some target := by
  simp [gives.node, tag.2]

end GivesReferent

theorem Prepared.member {model new : Model} {id target : NodeId} {kind : Symbols} {name : QName}
    (shaped : model.Shaped) (filed : model.Filed) (tag : model.IsTag id) (boundary : (model.node id).kind.isBoundary = true)
    (kinds : (model.node id).kind.symbols? = some kind) (bears : model.Bears kind name target)
    (made : (model.changeNode id fun node => { node with referent := some target }).define
      (model.node id).scope kind name target (model.node id).occurs = new) :
    model.Prepared new id .nothing := by
  have plain : (model.node id).kind ≠ .schema := by
    intro same
    simp [same, Kind.isBoundary] at boundary
  obtain ⟨parent, stands, inside⟩ := shaped.parent_of_kind tag plain
  have held := shaped.held parent stands.tag
  rw [← shaped.surrounding_eq inside] at held
  have alike : model.Alike new := made ▸
    (Alike.changeNode model id (f := fun node => { node with referent := some target })
      fun _ => rfl).trans (Alike.define ..)
  -- the node gets its referent, and one table an entry; all clauses are about one or the other
  have gives : model.GivesReferent new id target :=
    ⟨alike, made ▸ rfl, made ▸ rfl, made ▸ rfl, fun other => made ▸ node_changeNode model id other _⟩
  have scopes : new.scopes = model.scopes.add (model.scopes.surrounding (model.node id).scope)
      kind name ⟨target, (model.node id).occurs, false⟩ := made ▸ rfl
  constructor
  case alike => exact alike
  case queue => exact gives.queue
  case order => exact gives.order
  case unresolved => exact fun _ member => gives.unresolved ▸ member
  case resolved => exact gives.keeps Node.isResolved fun _ => rfl
  case base => exact gives.keeps Node.base fun _ => rfl
  case referent => exact fun _ apart => gives.referent_of_ne apart
  case filed =>
    unfold Filed
    rw [scopes]
    exact (filed.add _ bears).mono fun kind name target bears =>
      (alike.bears kind name target).mpr bears
  case grows =>
    rw [scopes]
    exact .add _ _ _ _ _
  case tables =>
    intro scope among other member
    rw [scopes, Scopes.get?_add model.scopes held, referral_of_referent (gives.referent tag),
      alike.kind, alike.name, alike.occurs, kinds, bears.1]
    simp only [Option.some.injEq, eq_comm (a := among), eq_comm (a := other)]
  case elsewhere =>
    intro other among apart
    rw [scopes]
    exact Scopes.table_changeTable_of_ne _ _ (Or.inl apart)
  case fits =>
    refine ⟨?_, ?_⟩
    · rw [alike.kind]
      cases same : (model.node id).kind <;> simp [same, Kind.isBoundary, Kind.isBody] at boundary ⊢
    · intro group
      rw [alike.kind] at group
      cases same : (model.node id).kind <;>
        simp [same, Kind.isBoundary, Kind.isGroup] at boundary group

theorem Prepared.group {model new : Model} {id target : NodeId} {kind members : Symbols}
    {name : QName} (filed : model.Filed) (tag : model.IsTag id)
    (kinds : (model.node id).kind.symbols? = some kind)
    (group : (model.node id).kind = .group ∧ members = .elements ∨
      (model.node id).kind = .attributeGroup ∧ members = .attributes)
    (bears : model.Bears kind name target)
    (made : (model.changeNode id fun node => { node with referent := some target }) = new) :
    model.Prepared new id (.body name target members) := by
  have alike : model.Alike new := made ▸
    Alike.changeNode model id (f := fun node => { node with referent := some target }) fun _ => rfl
  have gives : model.GivesReferent new id target :=
    ⟨alike, made ▸ rfl, made ▸ rfl, made ▸ rfl, fun other => made ▸ node_changeNode model id other _⟩
  have scopes : new.scopes = model.scopes := made ▸ rfl
  constructor
  case alike => exact alike
  case queue => exact gives.queue
  case order => exact gives.order
  case unresolved => exact fun _ member => gives.unresolved ▸ member
  case resolved => exact gives.keeps Node.isResolved fun _ => rfl
  case base => exact gives.keeps Node.base fun _ => rfl
  case referent => exact fun _ apart => gives.referent_of_ne apart
  case filed =>
    unfold Filed
    rw [scopes]
    exact filed.mono fun kind name target bears => (alike.bears kind name target).mpr bears
  case grows => exact scopes ▸ .refl _
  case tables =>
    -- what the group passes on is its body, so nothing is referred to where it stands
    intro scope among other member
    have none_ : new.referral id among other = none := by
      rw [referral_of_referent (gives.referent tag), alike.kind, if_neg]
      rintro ⟨same, -⟩
      rcases group with ⟨is, -⟩ | ⟨is, -⟩ <;> rw [is] at same <;> cases same <;> cases member
    rw [scopes, none_, ite_self, Definition.join_none]
  case elsewhere => exact fun _ _ _ => by rw [scopes]
  case fits =>
    refine ⟨gives.referent tag, ?_, ?_⟩
    · have same := kinds.trans bears.2.symm
      rw [alike.kind, alike.kind]
      rcases group with ⟨is, -⟩ | ⟨is, -⟩ <;> rw [is] at same ⊢ <;>
        cases there : (model.node target).kind <;> simp [there, Kind.symbols?] at same ⊢
    · rw [alike.kind]
      exact group

theorem bears_follow {model : Model} (filed : model.Filed) {id target : NodeId} {kind : Symbols}
    {written : String} {name : QName} (followed : (model.follow id kind written).2 = .found name target) :
    model.Bears kind name target := by
  unfold follow at followed
  split at followed
  next => cases followed
  next =>
    split at followed
    next => cases followed
    next found =>
      cases followed
      exact filed.find found

theorem isType_followType {model : Model} (filed : model.Filed) {id target : NodeId}
    {written : String} (followed : (model.followType id written).2 = some (.resolved target)) :
    (model.node target).kind.isType = true := by
  unfold followType at followed
  dsimp only at followed
  cases found : (model.follow id .types written).2 with
  | malformed =>
      rw [found] at followed
      cases followed
  | absent name =>
      rw [found] at followed
      cases followed
  | found name other =>
      rw [found] at followed
      cases followed
      have symbols := (bears_follow filed found).2
      cases kind : (model.node target).kind <;> simp [kind, Kind.symbols?] at symbols <;> rfl

theorem fits_nothing {model : Model} {id : NodeId} (body : (model.node id).kind.isBody = false)
    (group : (model.node id).kind.isGroup = false) : model.Fits id .nothing :=
  ⟨body, fun same => by simp [group] at same⟩

theorem fits_of_boundary {model : Model} {id : NodeId}
    (boundary : (model.node id).kind.isBoundary = true) : model.Fits id .nothing := by
  cases kind : (model.node id).kind <;> simp [kind, Kind.isBoundary] at boundary
  · exact fits_nothing (by simp [kind, Kind.isBody]) (by simp [kind, Kind.isGroup])
  · exact fits_nothing (by simp [kind, Kind.isBody]) (by simp [kind, Kind.isGroup])

section

variable {model : Model} {id : NodeId} (shaped : model.Shaped) (filed : model.Filed)
  (tag : model.IsTag id)
  (fresh : (model.node id).referent = none)

include shaped filed tag fresh

theorem prepared_followMember {kind : Symbols} (boundary : (model.node id).kind.isBoundary = true)
    (kinds : (model.node id).kind.symbols? = some kind) (written : String) :
    model.Prepared (model.followMember id kind written) id .nothing := by
  have noted := Noted.follow model id kind written
  have alike := noted.alike
  unfold followMember
  dsimp only
  split
  next name target found =>
    have bears := (alike.bears kind name target).mpr (bears_follow filed found)
    rw [bears.1, Option.getD_some]
    refine Prepared.after noted (Prepared.member (alike.shaped shaped) (noted.filed filed)
      ((alike.isTag id).mpr tag) ?_ ?_ bears rfl)
    · rw [alike.kind]
      exact boundary
    · rw [alike.kind]
      exact kinds
  next =>
    refine noted.prepared filed fresh (fits_of_boundary ?_)
    rw [alike.kind]
    exact boundary

theorem prepared_resolveMember {kind : Symbols} (boundary : (model.node id).kind.isBoundary = true)
    (kinds : (model.node id).kind.symbols? = some kind) :
    model.Prepared (model.resolveMember id kind) id .nothing := by
  unfold resolveMember
  dsimp only
  cases (model.node id).attribute? "ref" with
  | some written =>
      have typed := (prepared_followMember shaped filed tag fresh boundary kinds written).before
        (Noted.followMemberType _ id)
      dsimp only
      split
      next head _ => exact typed.before (Noted.followHead _ id head)
      next => exact typed
  | none =>
      have idle := (Noted.refl model).prepared filed fresh (fits_of_boundary boundary)
      have typed := idle.before (Noted.followMemberType _ id)
      dsimp only
      split
      next head _ => exact typed.before (Noted.followHead _ id head)
      next => exact typed

omit shaped in
theorem prepared_prepareGroup {kind members : Symbols}
    (kinds : (model.node id).kind.symbols? = some kind)
    (group : (model.node id).kind = .group ∧ members = .elements ∨
      (model.node id).kind = .attributeGroup ∧ members = .attributes) :
    model.Prepared (model.prepareGroup id kind members).1 id
      (model.prepareGroup id kind members).2 := by
  have idle {new : Model} (noted : model.Noted new) : new.Fits id .nothing := by
    refine ⟨?_, fun _ => noted.referent id ▸ fresh⟩
    rw [noted.alike.kind]
    rcases group with ⟨same, -⟩ | ⟨same, -⟩ <;> simp [same, Kind.isBody]
  unfold prepareGroup
  split
  next => exact (Noted.refl model).prepared filed fresh (idle (Noted.refl model))
  next written _ =>
    have noted := Noted.follow model id kind written
    dsimp only
    split
    next name target found =>
      have alike := noted.alike
      have bears := (alike.bears kind name target).mpr (bears_follow filed found)
      refine Prepared.after noted (Prepared.group (noted.filed filed)
        ((alike.isTag id).mpr tag) ?_ ?_ bears rfl)
      · rw [alike.kind]
        exact kinds
      · rw [alike.kind]
        exact group
    next =>
      dsimp only
      exact noted.prepared filed fresh (idle noted)

omit shaped tag in
theorem prepared_prepareDerivation (how : Derivation) (kind : (model.node id).kind = how.kind) :
    model.Prepared (model.prepareDerivation id how).1 id (model.prepareDerivation id how).2 := by
  unfold prepareDerivation
  split
  next absent =>
    exact (Noted.refl model).prepared filed fresh ⟨kind, fun _ _ => absent⟩
  next written there =>
    have noted := Noted.followType model id written
    have base : ((model.followType id written).1.node id).attribute? "base" = some written := by
      rw [Node.attribute?, noted.alike.attributes]
      exact there
    have kind : ((model.followType id written).1.node id).kind = how.kind := by
      rw [noted.alike.kind]
      exact kind
    dsimp only
    split
    next target found =>
      dsimp only
      refine noted.prepared filed fresh ⟨kind, base, ?_⟩
      rw [noted.alike.kind]
      exact isType_followType filed found
    next none_ =>
      dsimp only
      refine noted.prepared filed fresh ⟨kind, fun target same => ?_⟩
      exact absurd same (none_ target)

theorem prepared (deferred : (model.node id).kind.isDeferred = true) :
    model.Prepared (model.prepare id).1 id (model.prepare id).2 := by
  have own {remainder : Remainder} (fits : model.Fits id remainder) :=
    (Noted.refl model).prepared filed fresh fits
  unfold prepare
  cases kind : (model.node id).kind <;> simp only [kind, Kind.isDeferred] at deferred ⊢ <;>
    try contradiction
  case element =>
    exact prepared_resolveMember shaped filed tag fresh (by rw [kind]; rfl) (by rw [kind]; rfl)
  case attributeTag =>
    exact prepared_resolveMember shaped filed tag fresh (by rw [kind]; rfl) (by rw [kind]; rfl)
  case group =>
    exact prepared_prepareGroup filed tag fresh (by rw [kind]; rfl) (Or.inl ⟨kind, rfl⟩)
  case attributeGroup =>
    exact prepared_prepareGroup filed tag fresh (by rw [kind]; rfl) (Or.inr ⟨kind, rfl⟩)
  case extension => exact prepared_prepareDerivation filed fresh .extension kind
  case restriction => exact prepared_prepareDerivation filed fresh .restriction kind
  case list =>
    have noted := Noted.resolveList model id
    have there := (noted.alike.kind id).trans kind
    exact noted.prepared filed fresh (fits_nothing (by rw [there]; rfl) (by rw [there]; rfl))
  case union =>
    have noted := Noted.resolveUnion model id
    have there := (noted.alike.kind id).trans kind
    exact noted.prepared filed fresh (fits_nothing (by rw [there]; rfl) (by rw [there]; rfl))
  -- what is left are the particles and the content tags
  all_goals
    refine own ?_
    simp only [Fits, Node.body?, kind]

end

end Model

end XmlSchema
