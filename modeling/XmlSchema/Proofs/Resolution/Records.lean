import XmlSchema.Proofs.Content.Declaration
import XmlSchema.Proofs.Resolution.Mentions

set_option autoImplicit false

namespace XmlSchema

theorem Kind.isType_of_isDeferred {kind : Kind} (deferred : kind.isDeferred = true) :
    kind.isType = false := by
  cases kind <;> revert deferred <;> decide

theorem Node.kind_of_mention {node : Node} {mention : Mention}
    (member : mention ∈ node.mentions) :
    node.kind.isDeferred = true ∧ (mention.role = .item -> node.kind = .list) ∧
      (mention.role = .member -> node.kind = .union) ∧
        (mention.role = .base -> node.kind.isDerivation = true) := by
  unfold Node.mentions at member
  cases kind : node.kind with
  | element =>
      simp only [kind, List.mem_append] at member
      rcases member with (member | member) | member <;>
        simp [role_of_mention member, Kind.isDeferred]
  | attributeTag =>
      simp only [kind, List.mem_append] at member
      rcases member with member | member <;> simp [role_of_mention member, Kind.isDeferred]
  | union =>
      simp only [kind, List.mem_map] at member
      obtain ⟨written, -, rfl⟩ := member
      simp [Kind.isDeferred]
  | _ =>
      rw [kind] at member
      first
      | cases member
      | simp [role_of_mention member, Kind.isDeferred, Kind.isDerivation]

namespace Model

/-- No other tag of its kind makes the nearest type around a tag. -/
def Makes (model : Model) (id type : NodeId) : Prop :=
  model.enclosing id Kind.isType = some type ∧
    ∀ other, (model.node other).kind = (model.node id).kind ->
      model.enclosing other Kind.isType = some type -> other = id

/-- What a name on a tag leads to is kept where it is looked for. -/
def Recorded (model : Model) (id target : NodeId) : Mention.Role -> Prop
  | .referent => (model.node id).referent = some target
  | .body => (model.node id).referent = some target
  | .type => (model.node id).typeRef = some (.resolved target)
  | .head => id ∈ (model.node target).substitutes
  | .base => ∃ type, model.enclosing id Kind.isType = some type ∧
      (model.derivations type = [id] -> (model.node type).base = some (.resolved target))
  | .item => (model.node id).typeRef = some (.resolved target) ∧
      ∀ type, model.Makes id type -> (model.node type).typeRef = some (.resolved target)
  | .member => .resolved target ∈ (model.node id).memberTypes ∧
      ∀ type, model.Makes id type -> .resolved target ∈ (model.node type).memberTypes

theorem nodes_followType (model : Model) (id : NodeId) (written : String) :
    (model.followType id written).1.nodes = model.nodes := by
  unfold followType
  dsimp only
  exact nodes_follow model id .types written

theorem target?_follow (model : Model) (id : NodeId) (mention : Mention) :
    (model.follow id mention.symbols mention.written).2.target? = model.leadsTo id mention := by
  unfold follow leadsTo
  cases model.readName id mention.written with
  | error fault => rfl
  | ok name =>
      dsimp only
      cases model.find id mention.symbols name <;> rfl

theorem follow_of_leadsTo {model : Model} {id : NodeId} {role : Mention.Role} {kind : Symbols}
    {written : String} {target : NodeId}
    (leads : model.leadsTo id ⟨role, kind, written⟩ = some target) :
    ∃ name, (model.follow id kind written).2 = .found name target := by
  rw [← target?_follow] at leads
  dsimp only at leads
  generalize (model.follow id kind written).2 = reference at leads ⊢
  cases reference with
  | malformed => cases leads
  | absent name => cases leads
  | found name other =>
      cases leads
      exact ⟨name, rfl⟩

theorem followType_of_leadsTo {model : Model} {id : NodeId} {role : Mention.Role} {written : String}
    {target : NodeId}
    (leads : model.leadsTo id ⟨role, .types, written⟩ = some target) :
    (model.followType id written).2 = some (.resolved target) := by
  obtain ⟨name, found⟩ := follow_of_leadsTo leads
  unfold followType
  dsimp only
  rw [found]
  rfl

section

variable (holds : Node -> Prop) {model : Model} {id other : NodeId}

theorem holds_changeNode {owner : NodeId} {f : Node -> Node}
    (keeps : other = owner -> ∀ node, holds node -> holds (f node))
    (before : holds (model.node other)) : holds ((model.changeNode owner f).node other) := by
  rw [node_changeNode]
  split
  next here => exact keeps here.1 _ before
  next => exact before

theorem holds_setType {owner : NodeId}
    (keeps : other = owner -> ∀ node type, holds node -> holds { node with typeRef := type })
    (type : Option TypeRef) (before : holds (model.node other)) :
    holds ((model.setType owner type).node other) :=
  holds_changeNode holds (fun here node => keeps here node type) before

theorem holds_followMemberType
    (keeps : other = id -> ∀ node type, holds node -> holds { node with typeRef := type })
    (before : holds (model.node other)) : holds ((model.followMemberType id).node other) := by
  unfold followMemberType
  dsimp only
  split
  next written _ =>
    have same := node_congr (nodes_followType model id written)
    generalize model.followType id written = followed at same ⊢
    rw [← same] at before
    exact holds_setType holds keeps followed.2 before
  next => exact holds_setType holds keeps _ before
  next => exact before

theorem holds_followHead
    (keeps : ∀ node : Node, holds node ->
      holds { node with substitutes := node.substitutes ++ [id] })
    (written : String) (before : holds (model.node other)) :
    holds ((model.followHead id written).node other) := by
  have same := node_congr (nodes_follow model id .elements written)
  unfold followHead
  dsimp only
  generalize model.follow id .elements written = followed at same ⊢
  rw [← same] at before
  cases followed.2.target? with
  | some head => exact holds_changeNode holds (fun _ => keeps) before
  | none => exact before

theorem holds_prepare
    (referent : other = id ->
      (model.node id).kind.isBoundary = true ∨ (model.node id).kind.isGroup = true ->
        ∀ node target, holds node -> holds { node with referent := target })
    (heads : ∀ node : Node, holds node ->
      holds { node with substitutes := node.substitutes ++ [id] })
    (type : model.Receives id .list other ->
      ∀ node type, holds node -> holds { node with typeRef := type })
    (memberTypes : model.Receives id .union other ->
      ∀ node types, holds node -> holds { node with memberTypes := types })
    (before : holds (model.node other)) : holds ((model.prepare id).1.node other) := by
  obtain ⟨found, reached, -⟩ := Inquiry.Reached.prepare model id
  refine reached.keeps (P := fun inquiry => holds (inquiry.model.node other)) before ?_
  intro one two _ step before
  cases step with
  | follow after found kind written =>
      rw [node_congr (nodes_follow after id kind written)]
      exact before
  | member _ _ boundary =>
      exact holds_changeNode holds (fun here node => referent here (.inl boundary) node _) before
  | group _ _ group =>
      exact holds_changeNode holds (fun here node => referent here (.inr group) node _) before
  | type receives =>
      exact holds_changeNode holds (fun here node => type (here ▸ receives) node _) before
  | members receives =>
      exact holds_changeNode holds (fun here node => memberTypes (here ▸ receives) node _) before
  | head => exact holds_changeNode holds (fun _ => heads) before

end

section

variable {model : Model} {id target : NodeId}

theorem within_of_leadsTo (filed : model.Filed) {mention : Mention}
    (leads : model.leadsTo id mention = some target) : target.index < model.nodes.size := by
  unfold leadsTo at leads
  split at leads
  next => cases leads
  next name _ =>
    have bears := filed.find leads
    refine Nat.not_le.mp fun outside => ?_
    have named := bears.1
    rw [node_of_size_le model outside] at named
    cases named

theorem referent_changeNode (tag : model.IsTag id) (target : NodeId) :
    ((model.changeNode id fun node => { node with referent := some target }).node id).referent =
      some target := by
  rw [node_changeNode, if_pos ⟨rfl, tag.2⟩]

theorem typeRef_setType (inside : id.index < model.nodes.size) (type : Option TypeRef) :
    ((model.setType id type).node id).typeRef = type := by
  unfold setType
  rw [node_changeNode, if_pos ⟨rfl, inside⟩]

theorem referent_followMember (tag : model.IsTag id) {role : Mention.Role} {kind : Symbols}
    {written : String} (leads : model.leadsTo id ⟨role, kind, written⟩ = some target) :
    ((model.followMember id kind written).node id).referent = some target := by
  have nodes := nodes_follow model id kind written
  obtain ⟨name, found⟩ := follow_of_leadsTo leads
  unfold followMember
  dsimp only
  generalize model.follow id kind written = followed at nodes found ⊢
  obtain ⟨after, reference⟩ := followed
  cases found
  exact referent_changeNode ⟨tag.1, nodes ▸ tag.2⟩ target

theorem typeRef_followMemberType (tag : model.IsTag id) {written : String}
    (there : (model.node id).attribute? "type" = some written)
    (leads : model.leadsTo id ⟨.type, .types, written⟩ = some target) :
    ((model.followMemberType id).node id).typeRef = some (.resolved target) := by
  have nodes := nodes_followType model id written
  unfold followMemberType
  dsimp only
  rw [there]
  dsimp only
  rw [followType_of_leadsTo leads]
  exact typeRef_setType (by rw [nodes]; exact tag.2) _

theorem substitutes_followHead (inside : target.index < model.nodes.size) {written : String}
    (leads : model.leadsTo id ⟨.head, .elements, written⟩ = some target) :
    id ∈ ((model.followHead id written).node target).substitutes := by
  have nodes := nodes_follow model id .elements written
  rw [← target?_follow] at leads
  unfold followHead
  dsimp only at leads ⊢
  rw [leads]
  dsimp only
  rw [node_changeNode, if_pos ⟨rfl, by rw [nodes]; exact inside⟩]
  simp

theorem resolveMember_phases (filed : model.Filed) (id : NodeId) (kind : Symbols) :
    ∃ referred : Model, (∃ missed, Follows id model referred missed) ∧
      (∀ written, (model.node id).attribute? "ref" = some written ->
        referred = model.followMember id kind written) ∧
      ((model.node id).attribute? "substitutiongroup" = none ->
        model.resolveMember id kind = referred.followMemberType id) ∧
      ∀ written, (model.node id).attribute? "substitutiongroup" = some written ->
        model.resolveMember id kind = (referred.followMemberType id).followHead id written := by
  unfold resolveMember
  dsimp only
  cases refers : (model.node id).attribute? "ref" with
  | some written =>
      refine ⟨model.followMember id kind written, ⟨_, follows_followMember filed kind written⟩,
        ?_, ?_, ?_⟩
      · intro other same
        rw [Option.some.inj same]
      · intro absent
        rw [absent]
      · intro head there
        rw [there]
  | none =>
      refine ⟨model, ⟨_, Follows.refl id model⟩, ?_, ?_, ?_⟩
      · intro other same
        cases same
      · intro absent
        rw [absent]
      · intro head there
        rw [there]

theorem recorded_resolveMember (filed : model.Filed) (tag : model.IsTag id) {kind : Symbols}
    {mention : Mention} (leads : model.leadsTo id mention = some target)
    (member : mention ∈ (model.node id).mention .referent kind "ref" ++
      (model.node id).mention .type .types "type" ++
        (model.node id).mention .head .elements "substitutiongroup") :
    (model.resolveMember id kind).Recorded id target mention.role := by
  obtain ⟨referred, ⟨missed, follows⟩, refers, last, heads⟩ := resolveMember_phases filed id kind
  -- following the head of a substitution changes neither the referent nor the type
  have headed (holds : Node -> Prop) (other : NodeId)
      (keeps : ∀ node : Node, holds node ->
        holds { node with substitutes := node.substitutes ++ [id] })
      (before : holds ((referred.followMemberType id).node other)) :
      holds ((model.resolveMember id kind).node other) := by
    cases stands : (model.node id).attribute? "substitutiongroup" with
    | none =>
        rw [last stands]
        exact before
    | some written =>
        rw [heads written stands]
        exact holds_followHead holds keeps written before
  -- the names of an element come in this order: referent, type, head
  simp only [List.mem_append, Node.mem_mention] at member
  rcases member with (⟨written, there, rfl⟩ | ⟨written, there, rfl⟩) | ⟨written, there, rfl⟩
  · refine headed (fun node => node.referent = some target) id (fun _ refers => refers) ?_
    refine holds_followMemberType (fun node => node.referent = some target)
      (fun _ _ _ refers => refers) ?_
    rw [refers written there]
    exact referent_followMember tag leads
  · refine headed (fun node => node.typeRef = some (.resolved target)) id (fun _ typed => typed) ?_
    have within : referred.IsTag id := (follows.alike.isTag id).mpr tag
    rw [← follows.alike.attribute] at there
    rw [← follows.leadsTo] at leads
    exact typeRef_followMemberType within there leads
  · change id ∈ ((model.resolveMember id kind).node target).substitutes
    have typed := follows.trans (follows_followMemberType referred id)
    have inside := within_of_leadsTo filed leads
    rw [← typed.alike.size] at inside
    rw [← typed.leadsTo] at leads
    rw [heads written there]
    exact substitutes_followHead inside leads

theorem recorded_prepareGroup (tag : model.IsTag id) {kind members : Symbols} {mention : Mention}
    (leads : model.leadsTo id mention = some target)
    (member : mention ∈ (model.node id).mention .body kind "ref") :
    (model.prepareGroup id kind members).1.Recorded id target mention.role := by
  obtain ⟨written, there, rfl⟩ := Node.mem_mention.mp member
  have nodes := nodes_follow model id kind written
  obtain ⟨name, found⟩ := follow_of_leadsTo leads
  change ((model.prepareGroup id kind members).1.node id).referent = some target
  unfold prepareGroup
  rw [there]
  dsimp only
  generalize model.follow id kind written = followed at nodes found ⊢
  obtain ⟨after, reference⟩ := followed
  cases found
  exact referent_changeNode ⟨tag.1, nodes ▸ tag.2⟩ target

theorem Spread.made {old new : Model} {f : Node -> Node} (spread : Spread id f old new)
    (holds : Node -> Prop) (shaped : old.Shaped) (tag : old.IsTag id)
    (keeps : ∀ node, (f node).declared = node.declared) (made : ∀ node, holds (f node)) :
    holds (new.node id) ∧ ∀ type, new.Makes id type -> holds (new.node type) := by
  have changed := Alike.changeNode old id keeps
  have own : holds ((old.changeNode id f).node id) := by
    rw [node_changeNode, if_pos ⟨rfl, tag.2⟩]
    exact made _
  cases enclosed : old.enclosing id Kind.isType with
  | none =>
      rw [spread.alone enclosed]
      refine ⟨own, fun type makes => ?_⟩
      cases enclosed.symm.trans ((changed.enclosing id _).symm.trans makes.1)
  | some owner =>
      rw [spread.around owner enclosed]
      have both := changed.trans (Alike.changeNode _ owner keeps)
      have inside := (shaped.of_mem_ancestors (enclosing_spec enclosed).1).1.2
      rw [← changed.size] at inside
      refine ⟨holds_changeNode holds (fun _ node _ => made node) own, fun type makes => ?_⟩
      obtain rfl := Option.some.inj (enclosed.symm.trans ((both.enclosing id _).symm.trans makes.1))
      rw [node_changeNode, if_pos ⟨rfl, inside⟩]
      exact made _

theorem recorded_resolveList (shaped : model.Shaped) (tag : model.IsTag id) {mention : Mention}
    (leads : model.leadsTo id mention = some target)
    (member : mention ∈ (model.node id).mention .item .types "itemtype") :
    (model.resolveList id).Recorded id target mention.role := by
  obtain ⟨written, there, rfl⟩ := Node.mem_mention.mp member
  have alike := (Noted.typeByAttribute model id "itemtype").alike
  have type : (model.typeByAttribute id "itemtype").2 = some (.resolved target) := by
    unfold typeByAttribute
    rw [there]
    exact followType_of_leadsTo leads
  exact (spread_resolveList model id).made (fun node => node.typeRef = some (.resolved target))
    (alike.shaped shaped) ((alike.isTag id).mpr tag) (fun _ => rfl) fun _ => type

theorem mem_followTypes {model : Model} {id : NodeId} {found : List TypeRef}
    {written : List String} {type : TypeRef} (member : type ∈ found) :
    type ∈ (model.followTypes id found written).2 := by
  induction written generalizing model found with
  | nil => exact member
  | cons first rest ih =>
      unfold followTypes
      dsimp only
      exact ih (List.mem_append_left _ member)

theorem followTypes_of_leadsTo {model : Model} {id : NodeId} {found : List TypeRef}
    {written : List String} {name : String} (member : name ∈ written)
    (leads : model.leadsTo id ⟨.member, .types, name⟩ = some target) :
    .resolved target ∈ (model.followTypes id found written).2 := by
  induction written generalizing model found with
  | nil => cases member
  | cons first rest ih =>
      unfold followTypes
      dsimp only
      rcases List.mem_cons.mp member with rfl | later
      · refine mem_followTypes (List.mem_append_right _ ?_)
        rw [followType_of_leadsTo leads]
        exact List.mem_singleton_self _
      · refine ih later ?_
        rw [(Follows.followType id model .member first).leadsTo]
        exact leads

theorem recorded_resolveUnion (shaped : model.Shaped) (tag : model.IsTag id) {mention : Mention}
    (leads : model.leadsTo id mention = some target)
    (member : mention ∈ (((model.node id).attribute? "membertypes").map Text.words |>.getD []).map
      (Mention.mk .member .types)) :
    (model.resolveUnion id).Recorded id target mention.role := by
  obtain ⟨name, listed, rfl⟩ := List.mem_map.mp member
  have alike := (Noted.followTypes model id []
    ((((model.node id).attribute? "membertypes").map Text.words).getD [])).alike
  exact (spread_resolveUnion model id rfl).made (fun node => .resolved target ∈ node.memberTypes)
    (alike.shaped shaped) ((alike.isTag id).mpr tag) (fun _ => rfl)
    fun _ => List.mem_append_left _ (followTypes_of_leadsTo listed leads)

/-- Following the names on a tag keeps what they lead to, apart from the base of a derivation, which
waits for the base to be complete. -/
theorem recorded_prepare (shaped : model.Shaped) (filed : model.Filed) (tag : model.IsTag id)
    (bare : (model.node id).kind = .attributeTag ->
      (model.node id).attribute? "substitutiongroup" = none) {mention : Mention}
    (member : mention ∈ (model.node id).mentions)
    (leads : model.leadsTo id mention = some target) (early : mention.role ≠ .base) :
    (model.prepare id).1.Recorded id target mention.role := by
  unfold Node.mentions at member
  unfold prepare
  dsimp only
  cases kind : (model.node id).kind with
  | element =>
      rw [kind] at member
      exact recorded_resolveMember filed tag leads member
  | attributeTag =>
      rw [kind] at member
      refine recorded_resolveMember filed tag leads ?_
      rw [Node.mention_of_none (bare kind), List.append_nil]
      exact member
  | group =>
      rw [kind] at member
      exact recorded_prepareGroup tag leads member
  | attributeGroup =>
      rw [kind] at member
      exact recorded_prepareGroup tag leads member
  | list =>
      rw [kind] at member
      exact recorded_resolveList shaped tag leads member
  | union =>
      rw [kind] at member
      exact recorded_resolveUnion shaped tag leads member
  | extension =>
      rw [kind] at member
      exact absurd (Node.role_of_mention member) early
  | restriction =>
      rw [kind] at member
      exact absurd (Node.role_of_mention member) early
  | _ =>
      rw [kind] at member
      cases member

theorem Makes.congr {old new : Model} (alike : old.Alike new) {type : NodeId} :
    new.Makes id type ↔ old.Makes id type := by
  simp only [Makes, alike.enclosing, alike.kind]

theorem Recorded.congr {old new : Model} {role : Mention.Role}
    (recorded : old.Recorded id target role) (alike : old.Alike new)
    (same : ∀ other, new.node other = old.node other) : new.Recorded id target role := by
  cases role <;>
    simp only [Recorded, same, Makes.congr alike, alike.enclosing, alike.derivations] at recorded ⊢ <;>
      exact recorded

theorem Recorded.prepare {other : NodeId} {mention : Mention}
    (recorded : model.Recorded id target mention.role)
    (alike : model.Alike (model.prepare other).1) (apart : id ≠ other)
    (deferred : (model.node other).kind.isDeferred = true)
    (member : mention ∈ (model.node id).mentions) (early : mention.role ≠ .base) :
    (model.prepare other).1.Recorded id target mention.role := by
  obtain ⟨own, item, union, -⟩ := Node.kind_of_mention member
  -- what is kept of the other tag's names is kept on that tag and on the type around it
  have refers (before : (model.node id).referent = some target) :
      ((model.prepare other).1.node id).referent = some target :=
    holds_prepare (fun node => node.referent = some target) (fun same => absurd same apart)
      (fun _ refers => refers) (fun _ _ _ refers => refers) (fun _ _ _ refers => refers) before
  have typed {owner : NodeId} (before : (model.node owner).typeRef = some (.resolved target))
      (clear : ¬ (owner = other ∨ (model.node other).kind = .list ∧
        model.enclosing other Kind.isType = some owner)) :
      ((model.prepare other).1.node owner).typeRef = some (.resolved target) :=
    holds_prepare (fun node => node.typeRef = some (.resolved target)) (fun _ _ _ _ typed => typed)
      (fun _ typed => typed) (fun hit => absurd hit clear) (fun _ _ _ typed => typed) before
  have listed {owner : NodeId} (before : .resolved target ∈ (model.node owner).memberTypes)
      (clear : ¬ (owner = other ∨ (model.node other).kind = .union ∧
        model.enclosing other Kind.isType = some owner)) :
      .resolved target ∈ ((model.prepare other).1.node owner).memberTypes :=
    holds_prepare (fun node => .resolved target ∈ node.memberTypes) (fun _ _ _ _ listed => listed)
      (fun _ listed => listed) (fun _ _ _ listed => listed) (fun hit => absurd hit clear) before
  have notHere {kind : Kind} : ¬ (id = other ∨ (model.node other).kind = kind ∧
      model.enclosing other Kind.isType = some id) := by
    rintro (same | ⟨-, around⟩)
    · exact apart same
    · cases (Kind.isType_of_isDeferred own).symm.trans (enclosing_spec around).2
  -- a type that no other tag of the kind makes is not the one around the other tag
  have notMade {type : NodeId} (makes : model.Makes id type) :
      ¬ (type = other ∨ (model.node other).kind = (model.node id).kind ∧
        model.enclosing other Kind.isType = some type) := by
    rintro (rfl | ⟨kind, around⟩)
    · cases (Kind.isType_of_isDeferred deferred).symm.trans (enclosing_spec makes.1).2
    · exact apart (makes.2 other kind around).symm
  cases role : mention.role with
  | referent =>
      rw [role] at recorded
      exact refers recorded
  | body =>
      rw [role] at recorded
      exact refers recorded
  | type =>
      rw [role] at recorded
      exact typed recorded notHere
  | head =>
      rw [role] at recorded
      exact holds_prepare (fun node => id ∈ node.substitutes) (fun _ _ _ _ listed => listed)
        (fun _ listed => List.mem_append_left _ listed) (fun _ _ _ listed => listed)
        (fun _ _ _ listed => listed) recorded
  | base => exact absurd role early
  | item =>
      rw [role] at recorded
      refine ⟨typed recorded.1 notHere, fun type makes => ?_⟩
      rw [Makes.congr alike] at makes
      exact typed (recorded.2 type makes) (item role ▸ notMade makes)
  | member =>
      rw [role] at recorded
      refine ⟨listed recorded.1 notHere, fun type makes => ?_⟩
      rw [Makes.congr alike] at makes
      exact listed (recorded.2 type makes) (union role ▸ notMade makes)

end

structure Lasting (holds : Node -> Prop) : Prop where
  based : ∀ (node : Node) base how, holds node ->
    holds { node with base := base, derivation := some how }
  anyContent : ∀ node, holds node -> holds { node with anyContent := true }
  anyAttribute : ∀ node, holds node -> holds { node with anyAttribute := true }
  resolved : ∀ node, holds node -> holds { node with isResolved := true }

section

variable {holds : Node -> Prop} (lasting : Lasting holds) {model : Model} {id other : NodeId}

include lasting

theorem Lasting.step {start one two : Model} {remainder : Remainder}
    (step : Remainder.Step start id remainder one two) (before : holds (one.node other)) :
    holds (two.node other) := by
  have marked {mark : Node -> Node} (keeps : ∀ node, holds node -> holds (mark node)) :
      holds ((one.markWildcard id mark).node other) := by
    unfold markWildcard
    split
    next owner _ => exact holds_changeNode holds (fun _ => keeps) before
    next => exact before
  cases step with
  | copy => exact before
  | inherit => exact before
  | base how => exact holds_changeNode holds (fun _ node => lasting.based node _ how) before
  | report => exact before
  | content => exact marked lasting.anyContent
  | attributes => exact marked lasting.anyAttribute

theorem holds_finish (remainder : Remainder) (complete : Bool)
    (before : holds (model.node other)) :
    holds ((model.finish id remainder complete).node other) :=
  (Remainder.Steps.finish model id remainder complete).keeps
    (P := fun after => holds (after.node other)) before fun _ step before => lasting.step step before

end

theorem lasting_referent (target : NodeId) : Lasting fun node => node.referent = some target := by
  constructor <;> intros <;> assumption

theorem lasting_substitutes (id : NodeId) : Lasting fun node => id ∈ node.substitutes := by
  constructor <;> intros <;> assumption

theorem Recorded.lasts {old new : Model} {id target : NodeId} {role : Mention.Role}
    (recorded : old.Recorded id target role) (alike : old.Alike new) (early : role ≠ .base)
    (keeps : ∀ {holds : Node -> Prop}, Lasting holds -> ∀ other, holds (old.node other) ->
      holds (new.node other)) : new.Recorded id target role := by
  have refers := lasting_referent target
  have typed : Lasting fun node => node.typeRef = some (.resolved target) := by
    constructor <;> intros <;> assumption
  have listed : Lasting fun node => .resolved target ∈ node.memberTypes := by
    constructor <;> intros <;> assumption
  have stands := lasting_substitutes id
  cases role with
  | referent => exact keeps refers id recorded
  | body => exact keeps refers id recorded
  | type => exact keeps typed id recorded
  | head => exact keeps stands target recorded
  | base => exact absurd rfl early
  | item =>
      exact ⟨keeps typed id recorded.1, fun type makes =>
        keeps typed type (recorded.2 type ((Makes.congr alike).mp makes))⟩
  | member =>
      exact ⟨keeps listed id recorded.1, fun type makes =>
        keeps listed type (recorded.2 type ((Makes.congr alike).mp makes))⟩

end Model

namespace Pass

theorem holds_leave {holds : Node -> Prop} (lasting : Model.Lasting holds) {model : Model}
    {call : Call} {outer : List Call} {complete : Bool} {other : NodeId}
    (before : holds (model.node other)) :
    holds ((Pass.leave model call outer complete).model.node other) := by
  have finished : holds ((model.finish call.node call.remainder complete).node other) :=
    Model.holds_finish lasting call.remainder complete before
  have last : (Pass.leave model call outer complete).model.node other =
      ((model.finish call.node call.remainder complete).complete call.task call.node).node
        other := rfl
  rw [last, node_complete]
  split
  · exact lasting.resolved _ finished
  · exact finished

section

variable {start model : Model} {id target : NodeId} {mention : Mention}

theorem Scheduled.recorded_enter {task : TaskId} {rest : List TaskId} {calls : List Call}
    (gathered : start.Gathered) (scheduled : Scheduled start ⟨model, task :: rest, calls⟩)
    (waits : (model.queue.get task).status = .waiting)
    (apart : id ≠ (model.queue.get task).node) (member : mention ∈ (model.node id).mentions)
    (early : mention.role ≠ .base) (recorded : model.Recorded id target mention.role) :
    (Pass.enter model task rest calls).model.Recorded id target mention.role := by
  have marked := Model.Alike.mark model .running task
  have prepared := scheduled.prepared gathered waits
  have inside : task.index < start.queue.size :=
    scheduled.alike.tasks ▸ Model.within_of_waits waits
  have deferred := (gathered.queued.deferred task inside).2
  rw [← scheduled.alike.task, ← scheduled.alike.kind] at deferred
  exact (recorded.congr marked fun _ => rfl).prepare prepared.alike apart deferred member early

theorem recorded_leave {todo : List TaskId} {call : Call} {outer : List Call} {complete : Bool}
    (gathered : start.Gathered) (scheduled : Scheduled start ⟨model, todo, call :: outer⟩)
    (early : mention.role ≠ .base) (recorded : model.Recorded id target mention.role) :
    (Pass.leave model call outer complete).model.Recorded id target mention.role :=
  recorded.lasts (scheduled.alike_leave gathered complete) early
    fun lasting _ before => holds_leave lasting before

end

end Pass

end XmlSchema
