import XmlSchema.Proofs.Resolution.Naming

set_option autoImplicit false

namespace XmlSchema

theorem Node.nodup_of_body {node : Node} {kinds : List Symbols} {factor : Occurs}
    (body : node.body? = some (kinds, factor)) : kinds.Nodup := by
  unfold body? at body
  split at body <;> cases body <;> decide

namespace Remainder

def alone : Remainder -> Remainder
  | .body _ _ _ => .nothing
  | .inheritance how target _ => .derivation how (some (.resolved target))
  | other => other

def base? : Remainder -> Option (Option TypeRef)
  | .derivation _ base => some base
  | .inheritance _ target _ => some (some (.resolved target))
  | _ => none

def heritage? : Remainder -> Option NodeId
  | .inheritance _ target _ => some target
  | _ => none

@[simp] theorem heritage_alone (remainder : Remainder) : remainder.alone.heritage? = none := by
  cases remainder <;> rfl

theorem alone_of_awaited {remainder : Remainder} (nothing : remainder.awaited = none) :
    remainder.alone = remainder := by
  cases remainder <;> first | rfl | cases nothing

end Remainder

namespace Model

def copied (model : Model) (id : NodeId) (kind : Symbols) (factor : Occurs) (inherited : Bool)
    (name : QName) : Option Definition :=
  ((model.scopes.table (model.node id).scope kind).get? name).map fun definition =>
    definition.copied factor inherited

def offered (model : Model) (id : NodeId) (remainder : Remainder) (kind : Symbols) (name : QName) :
    Option Definition :=
  match remainder with
  | .nothing => none
  | .own kinds factor => if kind ∈ kinds then model.copied id kind factor false name else none
  | .body _ target members =>
      if kind = members then model.copied target kind (model.node id).occurs false name else none
  | .derivation _ _ => model.copied id kind .once false name
  | .inheritance _ _ _ => model.copied id kind .once false name

def inherited (model : Model) (id : NodeId) (remainder : Remainder) (scope : ScopeId)
    (kind : Symbols) (name : QName) : Option Definition :=
  match model.enclosing id Kind.isType, remainder.heritage? with
  | some owner, some target =>
      if scope = (model.node owner).scope then model.copied target kind .once true name else none
  | _, _ => none

theorem inherited_of_none (model : Model) (id : NodeId) {remainder : Remainder}
    (nothing : remainder.heritage? = none) (scope : ScopeId) (kind : Symbols) (name : QName) :
    model.inherited id remainder scope kind name = none := by
  unfold inherited
  rw [nothing]
  cases model.enclosing id Kind.isType <;> rfl

structure Finished (old new : Model) (id : NodeId) (remainder : Remainder) : Prop where
  alike : old.Alike new
  queue : new.queue = old.queue
  order : new.order = old.order
  unresolved : ∀ entry ∈ old.unresolved, entry ∈ new.unresolved
  resolved : ∀ other, (new.node other).isResolved = (old.node other).isResolved
  referent : ∀ other, (new.node other).referent = (old.node other).referent
  base : ∀ other, (remainder.base? ≠ none -> old.enclosing id Kind.isType ≠ some other) ->
    (new.node other).base = (old.node other).base
  derived : ∀ base owner, remainder.base? = some base ->
    old.enclosing id Kind.isType = some owner -> (new.node owner).base = base
  filed : new.Filed
  grows : old.scopes.Grows new.scopes
  tables : ∀ scope kind name, kind.isMember = true ->
    (new.scopes.table scope kind).get? name =
      Definition.join
        (if scope = old.scopes.surrounding (old.node id).scope then
          old.offered id remainder kind name
        else none)
        (Definition.join (old.inherited id remainder scope kind name)
          ((old.scopes.table scope kind).get? name))
  elsewhere : ∀ scope kind, scope ≠ old.scopes.surrounding (old.node id).scope ->
    (∀ owner, remainder.heritage? ≠ none -> old.enclosing id Kind.isType = some owner ->
      scope ≠ (old.node owner).scope) ->
    new.scopes.table scope kind = old.scopes.table scope kind

section

variable {old new : Model} {id : NodeId} {remainder : Remainder}

theorem Noted.finished (noted : old.Noted new) (filed : old.Filed) :
    old.Finished new id .nothing where
  alike := noted.alike
  queue := noted.queue
  order := noted.order
  unresolved := noted.unresolved
  resolved other := (congrArg Node.isResolved (noted.core other) :)
  referent := noted.referent
  base other _ := (congrArg Node.base (noted.core other) :)
  derived _ _ given := by cases given
  filed := noted.filed filed
  grows := noted.grows
  tables scope kind name _ := by
    rw [inherited_of_none old id rfl, noted.scopes, offered, ite_self]
    rfl
  elsewhere scope kind _ _ := by rw [noted.scopes]

theorem Noted.copied (noted : old.Noted new) (id : NodeId) (kind : Symbols) (factor : Occurs)
    (inherited : Bool) (name : QName) :
    new.copied id kind factor inherited name = old.copied id kind factor inherited name := by
  simp only [Model.copied, noted.scopes, noted.alike.scope]

theorem Finished.after {middle : Model} (noted : old.Noted middle)
    (finished : middle.Finished new id remainder) : old.Finished new id remainder where
  alike := noted.alike.trans finished.alike
  queue := finished.queue.trans noted.queue
  order := finished.order.trans noted.order
  unresolved entry member := finished.unresolved entry (noted.unresolved entry member)
  resolved other :=
    (finished.resolved other).trans (congrArg Node.isResolved (noted.core other) :)
  referent other := (finished.referent other).trans (noted.referent other)
  base other given := by
    rw [← noted.alike.enclosing] at given
    exact (finished.base other given).trans (congrArg Node.base (noted.core other) :)
  derived base owner given around := by
    rw [← noted.alike.enclosing] at around
    exact finished.derived base owner given around
  filed := finished.filed
  grows := noted.grows.trans finished.grows
  tables scope kind name member := by
    have offers : middle.offered id remainder kind name = old.offered id remainder kind name := by
      unfold offered
      simp only [noted.copied, noted.alike.occurs]
    have inherits : middle.inherited id remainder scope kind name =
        old.inherited id remainder scope kind name := by
      unfold Model.inherited
      simp only [noted.copied, noted.alike.enclosing, noted.alike.scope]
    rw [finished.tables scope kind name member, noted.scopes, noted.alike.scope, offers, inherits]
  elsewhere scope kind apart distant := by
    rw [← noted.scopes, ← noted.alike.scope] at apart
    simp only [← noted.alike.enclosing, ← noted.alike.scope] at distant
    rw [finished.elsewhere scope kind apart distant, noted.scopes]

theorem Finished.before {middle : Model} (finished : old.Finished middle id remainder)
    (noted : middle.Noted new) : old.Finished new id remainder where
  alike := finished.alike.trans noted.alike
  queue := noted.queue.trans finished.queue
  order := noted.order.trans finished.order
  unresolved entry member := noted.unresolved entry (finished.unresolved entry member)
  resolved other :=
    (congrArg Node.isResolved (noted.core other) :).trans (finished.resolved other)
  referent other := (noted.referent other).trans (finished.referent other)
  base other given := (congrArg Node.base (noted.core other) :).trans (finished.base other given)
  derived base owner given around :=
    (congrArg Node.base (noted.core owner) :).trans (finished.derived base owner given around)
  filed := noted.filed finished.filed
  grows := finished.grows.trans noted.grows
  tables scope kind name member := by
    rw [noted.scopes, finished.tables scope kind name member]
  elsewhere scope kind apart distant := by
    rw [noted.scopes, finished.elsewhere scope kind apart distant]

end

theorem Finished.inlined {model : Model} (filed : model.Filed) {id : NodeId}
    (remainder : Remainder) {kinds : List Symbols} (factor : Occurs) (source : NodeId)
    (held : (model.scopes.surrounding (model.node id).scope).index < model.scopes.size)
    (nodup : kinds.Nodup) (base : remainder.base? = none)
    (offers : ∀ kind name, model.offered id remainder kind name =
      if kind ∈ kinds then model.copied source kind factor false name else none) :
    model.Finished
      { model with
        scopes := model.scopes.inlineEach kinds (model.scopes.surrounding (model.node id).scope)
          factor (model.node source).scope false } id remainder := by
  have alike := Alike.withScopes model
    (Scopes.size_inlineEach model.scopes kinds (model.scopes.surrounding (model.node id).scope)
      factor (model.node source).scope false)
    fun other => Scopes.keeps_inlineEach Scope.frame (fun _ _ => rfl) _ _ _ _ _ _ other
  refine ⟨alike, rfl, rfl, fun _ member => member, fun _ => rfl, fun _ => rfl, fun _ _ => rfl, ?_,
    ?_, ?_, ?_, ?_⟩
  · intro given _ same
    rw [base] at same
    cases same
  · exact (Scopes.Lead.inlineEach filed _ _ _ _ _).mono fun kind name target bears =>
      (alike.bears kind name target).mpr bears
  · exact .inlineEach _ _ _ _ _ _
  · intro scope kind name _
    have nothing : model.inherited id remainder scope kind name = none := by
      refine inherited_of_none model id ?_ scope kind name
      cases remainder <;> first | rfl | cases base
    refine (Scopes.get?_inlineEach model.scopes held nodup ..).trans ?_
    rw [nothing, offers, Definition.join_none]
    by_cases here : scope = model.scopes.surrounding (model.node id).scope <;> simp [here, copied]
  · exact fun scope kind apart _ => Scopes.table_inlineEach_of_ne model.scopes kinds _ _ _ _ apart

theorem noted_copyGroup {model : Model} {id : NodeId} {parent : ScopeId}
    (around : (model.scopes.get (model.node id).scope).parent = some parent) (target : NodeId)
    (members : Symbols) :
    Noted
      { model with
        scopes := model.scopes.inlineEach [members] parent (model.node id).occurs
          (model.node target).scope false }
      (model.copyGroup id target members) := by
  have copied : model.scopes.inlineIntoParent (model.node id).scope members (model.node id).occurs
      (model.node target).scope =
        model.scopes.inlineEach [members] parent (model.node id).occurs
          (model.node target).scope false := by
    simp [Scopes.inlineIntoParent, around, Scopes.inlineEach]
  unfold copyGroup
  dsimp only
  rw [copied]
  split <;> split
  · exact (Noted.markAnyContent _ id).trans (Noted.markAnyAttribute _ id)
  · exact Noted.markAnyAttribute _ id
  · exact Noted.markAnyContent _ id
  · exact Noted.refl _

theorem Fits.kind_of_heritage {model : Model} {id : NodeId} {remainder : Remainder}
    (fits : model.Fits id remainder) (heir : remainder.heritage? ≠ none) :
    ∃ how : Derivation, (model.node id).kind = how.kind := by
  cases remainder with
  | inheritance how target written => exact ⟨how, fits.1⟩
  | nothing => exact absurd rfl heir
  | own => exact absurd rfl heir
  | body => exact absurd rfl heir
  | derivation => exact absurd rfl heir

def bequeathed (model : Model) (id : NodeId) (heritage : Option NodeId) : Scopes :=
  match model.enclosing id Kind.isType, heritage with
  | some owner, some target =>
      model.scopes.inlineEach inheritedKinds (model.node owner).scope .once
        (model.node target).scope true
  | _, _ => model.scopes

def based (model : Model) (id : NodeId) (how : Derivation) (base : Option TypeRef) : Model :=
  match model.enclosing id Kind.isType with
  | some owner => model.setBase owner how base
  | none => model

section

variable {model : Model} {id : NodeId}

theorem scope_based (model : Model) (id : NodeId) (how : Derivation) (base : Option TypeRef)
    (other : NodeId) :
    ((model.based id how base).node other).scope = (model.node other).scope := by
  unfold based
  split
  · exact keeps_changeNode Node.scope model _ other fun _ => rfl
  · rfl

theorem keeps_bequeathed {α : Type} (look : Scope -> α)
    (keeps : ∀ scope tables, look { scope with tables := tables } = look scope)
    (heritage : Option NodeId) (scope : ScopeId) :
    look ((model.bequeathed id heritage).get scope) = look (model.scopes.get scope) := by
  unfold bequeathed
  split
  · exact Scopes.keeps_inlineEach look keeps _ _ _ _ _ _ scope
  · rfl

theorem size_bequeathed (heritage : Option NodeId) :
    (model.bequeathed id heritage).size = model.scopes.size := by
  unfold bequeathed
  split
  · exact Scopes.size_inlineEach ..
  · rfl

theorem lead_bequeathed (filed : model.Filed) (heritage : Option NodeId) :
    (model.bequeathed id heritage).Lead model.Bears := by
  unfold bequeathed
  split
  · exact Scopes.Lead.inlineEach filed _ _ _ _ _
  · exact filed

theorem grows_bequeathed (heritage : Option NodeId) :
    model.scopes.Grows (model.bequeathed id heritage) := by
  unfold bequeathed
  split
  · exact .inlineEach _ _ _ _ _ _
  · exact .refl _

theorem table_bequeathed_of_ne {heritage : Option NodeId} {scope : ScopeId}
    (distant : ∀ owner, heritage ≠ none -> model.enclosing id Kind.isType = some owner ->
      scope ≠ (model.node owner).scope) (kind : Symbols) :
    (model.bequeathed id heritage).table scope kind = model.scopes.table scope kind := by
  unfold bequeathed
  split
  next owner target enclosed =>
    exact Scopes.table_inlineEach_of_ne _ _ _ _ _ _
      (distant owner (Option.some_ne_none target) enclosed)
  next => rfl

theorem derive_eq {parent : ScopeId}
    (around : (model.scopes.get (model.node id).scope).parent = some parent) (how : Derivation)
    (base : Option TypeRef) (heritage : Option NodeId) :
    model.derive id how base heritage =
      { model.based id how base with
        scopes := (model.bequeathed id heritage).inlineEach [.elements, .attributes] parent .once
          (model.node id).scope false } := by
  have scope := scope_based model id how base id
  have lifted := Scopes.foldl_inlineIntoParent (model.bequeathed id heritage)
    ((keeps_bequeathed Scope.parent (fun _ _ => rfl) heritage _).trans around) [.elements, .attributes] .once
    (model.node id).scope
  rw [← lifted]
  unfold derive inlineBody
  unfold based at scope ⊢
  unfold bequeathed
  cases enclosed : model.enclosing id Kind.isType with
  | none => cases heritage <;> rfl
  | some owner =>
      rw [enclosed] at scope
      cases heritage with
      | none =>
          simp only at scope ⊢
          rw [scope]
          rfl
      | some target =>
          have same : (((model.inherit owner target).setBase owner how base).node id).scope =
              (model.node id).scope := scope
          simp only
          rw [same]
          rfl

theorem enclosing_spec {accepts : Kind -> Bool} {owner : NodeId}
    (found : model.enclosing id accepts = some owner) :
    owner ∈ model.ancestors id ∧ accepts (model.node owner).kind = true :=
  ⟨List.mem_of_find?_eq_some found,
    List.find?_some (p := fun outer => accepts (model.node outer).kind) found⟩

theorem alike_based (model : Model) (id : NodeId) (how : Derivation) (base : Option TypeRef) :
    model.Alike (model.based id how base) := by
  unfold based
  split
  · exact Alike.changeNode model _ fun _ => rfl
  · exact Alike.refl model

theorem keeps_based {α : Type} (look : Node -> α)
    (keeps : ∀ (node : Node) base how, look { node with base := base, derivation := some how } =
      look node) (how : Derivation) (base : Option TypeRef) (other : NodeId) :
    look ((model.based id how base).node other) = look (model.node other) := by
  unfold based
  split
  · exact keeps_changeNode look model _ other fun node => keeps node base how
  · rfl

theorem based_rest (model : Model) (id : NodeId) (how : Derivation) (base : Option TypeRef) :
    (model.based id how base).queue = model.queue ∧ (model.based id how base).order = model.order ∧
      (model.based id how base).unresolved = model.unresolved ∧
        (model.based id how base).scopes = model.scopes := by
  unfold based
  split <;> exact ⟨rfl, rfl, rfl, rfl⟩

theorem base_based (how : Derivation) (base : Option TypeRef) (other : NodeId) :
    ((model.based id how base).node other).base =
      if model.enclosing id Kind.isType = some other ∧ other.index < model.nodes.size then base
      else (model.node other).base := by
  unfold based
  split
  next owner found =>
    refine (congrArg Node.base (node_changeNode model owner other _)).trans ?_
    simp only [found, Option.some.injEq, eq_comm (a := other)]
    split <;> rfl
  next none_ => simp [none_]

theorem get?_bequeathed (shaped : model.Shaped) (remainder : Remainder) (scope : ScopeId)
    {kind : Symbols} (member : kind.isMember = true) (name : QName) :
    ((model.bequeathed id remainder.heritage?).table scope kind).get? name =
      Definition.join (model.inherited id remainder scope kind name)
        ((model.scopes.table scope kind).get? name) := by
  unfold bequeathed inherited
  cases enclosed : model.enclosing id Kind.isType with
  | none => rfl
  | some owner =>
      cases heritage : remainder.heritage? with
      | none => rfl
      | some target =>
          have held := shaped.held owner (shaped.of_mem_ancestors (enclosing_spec enclosed).1).1
          have listed : kind ∈ inheritedKinds := by
            rcases kind.isMember_iff.mp member with rfl | rfl <;> decide
          refine (Scopes.get?_inlineEach model.scopes held (by decide) _ _ _ _ _ _).trans ?_
          simp only [listed, and_true, copied]

theorem inherited_own (shaped : model.Shaped) (tag : model.IsTag id)
    (plain : (model.node id).kind ≠ .schema) (remainder : Remainder) (kind : Symbols)
    (name : QName) : model.inherited id remainder (model.node id).scope kind name = none := by
  unfold inherited
  split
  next owner target enclosed _ =>
    have around := (enclosing_spec enclosed).1
    refine if_neg fun same => ?_
    have equal := shaped.apart id owner tag (shaped.of_mem_ancestors around).1 plain same
    exact Nat.lt_irrefl _ (equal ▸ mem_ancestors_lt around)
  next => rfl

theorem Finished.derive (remainder : Remainder) (shaped : model.Shaped) (filed : model.Filed)
    (tag : model.IsTag id) (plain : (model.node id).kind ≠ .schema)
    (how : Derivation) {base : Option TypeRef} (given : remainder.base? = some base) :
    model.Finished (model.derive id how base remainder.heritage?) id remainder := by
  obtain ⟨parent, stands, inside⟩ := shaped.parent_of_kind tag plain
  have held := shaped.held parent stands.tag
  obtain ⟨queue, order, unresolved, scopes⟩ := based_rest model id how base
  have size := @size_bequeathed model id remainder.heritage?
  have leadBase := @lead_bequeathed model id filed remainder.heritage?
  rw [derive_eq stands.scope]
  -- bodies are copied after the base is recorded; scopes stand where they stood
  have frame (other : ScopeId) : (((model.bequeathed id remainder.heritage?).inlineEach
      [.elements, .attributes] (model.node parent).scope .once (model.node id).scope false).get
        other).frame = ((model.based id how base).scopes.get other).frame := by
    rw [Scopes.keeps_inlineEach Scope.frame (fun _ _ => rfl), scopes]
    exact keeps_bequeathed Scope.frame (fun _ _ => rfl) _ other
  have alike := (alike_based model id how base).trans
    (Alike.withScopes (model.based id how base) (by rw [Scopes.size_inlineEach, size, scopes]) frame)
  constructor
  case alike => exact alike
  case queue => exact queue
  case order => exact order
  case unresolved => exact fun _ member => unresolved ▸ member
  case resolved => exact fun other => keeps_based Node.isResolved (fun _ _ _ => rfl) how base other
  case referent => exact fun other => keeps_based Node.referent (fun _ _ _ => rfl) how base other
  case base =>
    intro other apart
    refine (base_based how base other).trans (if_neg fun same => ?_)
    exact apart (by simp [given]) same.1
  case derived =>
    intro other owner same around
    cases given.symm.trans same
    refine (base_based how base owner).trans (if_pos ⟨around, ?_⟩)
    exact (shaped.of_mem_ancestors (enclosing_spec around).1).1.2
  case filed =>
    exact (leadBase.inlineEach _ _ _ _ _).mono fun kind name target bears =>
      (alike.bears kind name target).mpr bears
  case grows => exact (grows_bequeathed _).trans (.inlineEach _ _ _ _ _ _)
  case tables =>
    intro scope kind name member
    have listed : kind ∈ [Symbols.elements, .attributes] := by
      rcases kind.isMember_iff.mp member with rfl | rfl <;> decide
    have offers : model.offered id remainder kind name =
        model.copied id kind .once false name := by
      cases remainder <;> first | rfl | cases given
    -- what is inherited goes into the type first, then the body of the derivation around its tag
    refine (Scopes.get?_inlineEach _ (by rw [size]; exact held) (by decide)
      _ _ _ _ _ _).trans ?_
    rw [get?_bequeathed shaped remainder _ member, get?_bequeathed shaped remainder _ member,
      inherited_own shaped tag plain remainder kind name, offers, shaped.surrounding_eq inside]
    simp only [listed, and_true, Definition.join_none, copied]
  case elsewhere =>
    intro scope kind apart distant
    rw [shaped.surrounding_eq inside] at apart
    exact (Scopes.table_inlineEach_of_ne _ _ _ _ _ _ apart).trans
      (table_bequeathed_of_ne distant kind)

end

/-- Finishing a tag does no more than it should. -/
theorem finished {model : Model} {id : NodeId} {remainder : Remainder} (shaped : model.Shaped)
    (filed : model.Filed) (tag : model.IsTag id)
    (plain : (model.node id).kind ≠ .schema) (fits : model.Fits id remainder) (complete : Bool) :
    model.Finished (model.finish id remainder complete) id
      (if complete then remainder else remainder.alone) := by
  obtain ⟨parent, stands, inside⟩ := shaped.parent_of_kind tag plain
  have held := shaped.held parent stands.tag
  have around := shaped.surrounding_eq inside
  rw [← around] at held
  cases remainder with
  | nothing =>
      rw [show Remainder.nothing.alone = .nothing from rfl, ite_self]
      exact (Noted.refl model).finished filed
  | own kinds factor =>
      rw [show (Remainder.own kinds factor).alone = .own kinds factor from rfl, ite_self]
      have copied := Finished.inlined filed (.own kinds factor) factor id held
        (Node.nodup_of_body fits) rfl fun _ _ => rfl
      rw [around] at copied
      unfold finish inlineBody
      dsimp only
      rw [Scopes.foldl_inlineIntoParent _ stands.scope]
      exact copied
  | body name target members =>
      unfold finish
      cases complete with
      | false =>
          have noted := Noted.circular model id name
          exact noted.finished filed
      | true =>
          have copied := Finished.inlined filed (.body name target members)
            (model.node id).occurs target held (show [members].Nodup by simp) rfl
            fun kind name => by simp [offered]
          rw [around] at copied
          exact copied.before (noted_copyGroup stands.scope target members)
  | derivation how base =>
      rw [show (Remainder.derivation how base).alone = .derivation how base from rfl, ite_self]
      exact Finished.derive (.derivation how base) shaped filed tag plain how rfl
  | inheritance how target written =>
      unfold finish
      cases complete with
      | false =>
          -- a base that depends on itself is reported, and recorded without its tables
          have noted := Noted.circular model id
            ((model.node target).name.getD (.unqualified (Text.trim written)))
          have alike := noted.alike
          refine Finished.after noted (Finished.derive
            (.derivation how (some (.resolved target))) (alike.shaped shaped)
            (noted.filed filed) ((alike.isTag id).mpr tag) ?_ how rfl)
          rw [alike.kind]
          exact plain
      | true =>
          exact Finished.derive (.inheritance how target written) shaped filed tag plain
            how rfl

theorem circular_finish {model : Model} {id : NodeId} {remainder : Remainder}
    (shaped : model.Shaped) (filed : model.Filed) (tag : model.IsTag id) (plain : (model.node id).kind ≠ .schema)
    (awaits : remainder.awaited ≠ none) :
    ∃ entry ∈ (model.finish id remainder false).unresolved, entry.isCircular = true := by
  cases remainder with
  | nothing => exact absurd rfl awaits
  | own => exact absurd rfl awaits
  | derivation => exact absurd rfl awaits
  | body name target members =>
      exact ⟨_, Array.mem_push_self, rfl⟩
  | inheritance how target written =>
      have noted := Noted.circular model id
        ((model.node target).name.getD (.unqualified (Text.trim written)))
      have alike := noted.alike
      have derived := Finished.derive (.derivation how (some (.resolved target)))
        (alike.shaped shaped) (noted.filed filed) ((alike.isTag id).mpr tag)
        (by rw [alike.kind]; exact plain) how rfl
      exact ⟨_, derived.unresolved _ Array.mem_push_self, rfl⟩

theorem own_copied (model : Model) (id : NodeId) (kind : Symbols) (factor : Occurs)
    (name : QName) :
    Definition.own (model.copied id kind factor false name) =
      (model.ownBounds id kind name).scale factor :=
  Definition.own_copied _ factor

theorem own_inherited (model : Model) (id : NodeId) (remainder : Remainder) (scope : ScopeId)
    (kind : Symbols) (name : QName) :
    Definition.own (model.inherited id remainder scope kind name) = 0 := by
  unfold inherited
  split
  · split
    · exact Definition.own_inherited _ _
    · rfl
  · rfl

theorem own_offered {model : Model} {id : NodeId} {remainder : Remainder} (single : model.Single)
    (fits : model.Fits id remainder) {kind : Symbols} (member : kind.isMember = true)
    (name : QName) :
    Definition.own (model.offered id remainder kind name) = model.passed kind id name := by
  cases remainder with
  | nothing =>
      obtain ⟨body, group⟩ := fits
      unfold passed offered
      cases is : (model.node id).kind <;> simp only [is, Kind.isBody, Kind.isGroup] at body group <;>
        cases kind <;> simp_all
  | own kinds factor =>
      have body : (model.node id).body? = some (kinds, factor) := fits
      unfold Node.body? at body
      unfold passed offered
      rcases kind.isMember_iff.mp member with rfl | rfl <;> split at body <;> cases body <;>
        simp_all [own_copied, Bounds.scale_once]
  | body _ target members =>
      obtain ⟨refers, -, ⟨is, rfl⟩ | ⟨is, rfl⟩⟩ := fits <;> unfold passed offered <;>
        rcases kind.isMember_iff.mp member with rfl | rfl
      · simp [is, refers, own_copied]
      · simp [is]
      · simp [is]
      · simp [is, refers, own_copied, single id is, Bounds.scale_once]
  | derivation how base =>
      have is : (model.node id).kind = how.kind := fits.1
      unfold passed offered
      cases how <;> simp [is, Derivation.kind, own_copied, Bounds.scale_once]
  | inheritance how target written =>
      have is : (model.node id).kind = how.kind := fits.1
      unfold passed offered
      cases how <;> simp [is, Derivation.kind, own_copied, Bounds.scale_once]

end Model

end XmlSchema
