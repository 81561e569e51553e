import XmlSchema.Model.Reference
import XmlSchema.Proofs.Inlining

set_option autoImplicit false

namespace XmlSchema

namespace Scopes

def Lead (scopes : Scopes) (fit : Symbols -> QName -> NodeId -> Prop) : Prop :=
  ∀ scope kind name definition, (scopes.table scope kind).get? name = some definition ->
    fit kind name definition.target

variable {scopes : Scopes} {fit : Symbols -> QName -> NodeId -> Prop}

theorem Lead.congr {other : Scopes} (lead : scopes.Lead fit)
    (same : ∀ id kind, other.table id kind = scopes.table id kind) : other.Lead fit := by
  intro scope kind name definition found
  rw [same] at found
  exact lead scope kind name definition found

theorem Lead.mono {other : Symbols -> QName -> NodeId -> Prop} (lead : scopes.Lead fit)
    (weaker : ∀ kind name target, fit kind name target -> other kind name target) :
    scopes.Lead other :=
  fun scope kind name definition found =>
    weaker kind name definition.target (lead scope kind name definition found)

theorem Lead.add (lead : scopes.Lead fit) (id : ScopeId) {kind : Symbols} {name : QName}
    {definition : Definition} (added : fit kind name definition.target) :
    (scopes.add id kind name definition).Lead fit := by
  intro scope among other found there
  rcases table_changeTable_cases scopes id scope kind among
      (fun table => table.add name definition) with same | ⟨rfl, rfl, -, changed⟩
  next =>
    rw [Scopes.add, same] at there
    exact lead scope among other found there
  next =>
    rw [Scopes.add, changed] at there
    by_cases hit : other = name
    next =>
      subst hit
      rw [SymbolTable.add, Table.get?_put_self] at there
      cases there
      rcases definition.target_merge ((scopes.table scope among).get? other) with
        new | ⟨old, held, kept⟩
      · exact new ▸ added
      · exact kept ▸ lead scope among other old held
    next =>
      rw [SymbolTable.add, Table.get?_put_of_ne _ _ hit] at there
      exact lead scope among other found there

theorem Lead.inlineInto (lead : scopes.Lead fit) (target : ScopeId)
    (kind : Symbols) (factor : Occurs) (source : ScopeId) (inherited : Bool) :
    (scopes.inlineInto target kind factor source inherited).Lead fit := by
  intro scope among name found there
  rcases table_changeTable_cases scopes target scope kind among
      (fun table => table.addAll ((scopes.table source kind).entries.map fun entry =>
        (entry.1, entry.2.copied factor inherited))) with same | ⟨rfl, rfl, inside, -⟩
  next =>
    rw [Scopes.inlineInto, same] at there
    exact lead scope among name found there
  next =>
    rw [get?_inlineInto_self scopes factor inherited inside] at there
    unfold Definition.join at there
    split at there
    next => exact lead scope among name found there
    next copy copied =>
      cases there
      obtain ⟨original, held, rfl⟩ := Option.map_eq_some_iff.mp copied
      rcases (original.copied factor inherited).target_merge
          ((scopes.table scope among).get? name) with new | ⟨old, present, kept⟩
      · exact new ▸ lead source among name original held
      · exact kept ▸ lead scope among name old present

theorem Lead.inlineEach (lead : scopes.Lead fit) (kinds : List Symbols)
    (target : ScopeId) (factor : Occurs) (source : ScopeId) (inherited : Bool) :
    (scopes.inlineEach kinds target factor source inherited).Lead fit := by
  induction kinds generalizing scopes with
  | nil => exact lead
  | cons kind rest ih =>
      exact ih (lead.inlineInto target kind factor source inherited)

end Scopes

namespace Model

def Bears (model : Model) (kind : Symbols) (name : QName) (target : NodeId) : Prop :=
  (model.node target).name = some name ∧ (model.node target).kind.symbols? = some kind

def Filed (model : Model) : Prop := model.scopes.Lead model.Bears

theorem Filed.find {model : Model} (filed : model.Filed) {id target : NodeId} {kind : Symbols}
    {name : QName} (found : model.find id kind name = some target) :
    model.Bears kind name target := by
  obtain ⟨definition, looked, rfl⟩ := Option.map_eq_some_iff.mp found
  unfold Namespaces.lookup at looked
  split at looked
  next => cases looked
  next =>
    obtain ⟨scope, -, held⟩ := List.exists_of_findSome?_eq_some looked
    exact filed scope kind name definition held

end Model

end XmlSchema
