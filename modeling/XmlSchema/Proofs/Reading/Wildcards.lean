import Mathlib.Data.List.Find
import XmlSchema.Proofs.Documents.Invariants
import XmlSchema.Proofs.Reading.Turns
import XmlSchema.Proofs.Resolution.Completion

set_option autoImplicit false

namespace XmlSchema

inductive Wildcard where
  | content
  | attributes
  deriving DecidableEq, Repr

def Wildcard.kind : Wildcard -> Kind
  | content => .any
  | attributes => .anyAttribute

theorem Wildcard.eq_of_kind {one two : Wildcard} (same : one.kind = two.kind) : one = two := by
  cases one <;> cases two <;> simp_all [Wildcard.kind]

namespace Node

def allows (node : Node) : Wildcard -> Bool
  | .content => node.anyContent
  | .attributes => node.anyAttribute

def allow (wildcard : Wildcard) (node : Node) : Node :=
  match wildcard with
  | .content => { node with anyContent := true }
  | .attributes => { node with anyAttribute := true }

@[simp] theorem allows_allow (marked wildcard : Wildcard) (node : Node) :
    (node.allow marked).allows wildcard = (decide (marked = wildcard) || node.allows wildcard) := by
  cases marked <;> cases wildcard <;> simp [allow, allows]

theorem allows_of_written {node : Node} (fresh : node.written = node) (wildcard : Wildcard) :
    node.allows wildcard = false := by
  rw [← fresh]
  cases wildcard <;> rfl

theorem allows_of_told {a b : Node} (same : a.told = b.told) (wildcard : Wildcard) :
    a.allows wildcard = b.allows wildcard := by
  cases wildcard with
  | content => exact (congrArg anyContent same :)
  | attributes => exact (congrArg anyAttribute same :)

theorem enduring_allows (wildcard : Wildcard) : Enduring fun node => node.allows wildcard := by
  constructor <;> intros <;> cases wildcard <;> rfl

end Node

namespace Model

def Loosens (model : Model) (id : NodeId) (wildcard : Wildcard) (owner : NodeId) : Prop :=
  (model.node id).kind = wildcard.kind ∧ model.enclosing id Kind.ownsWildcards = some owner

def Hosts (model : Model) (wildcard : Wildcard) (owner : NodeId) : Prop :=
  ∃ id, model.Loosens id wildcard owner

def MarksHosts (model : Model) : Prop :=
  ∀ owner wildcard, (model.node owner).allows wildcard = true -> model.Hosts wildcard owner

def HostsMarked (model : Model) : Prop :=
  ∀ owner wildcard, model.Hosts wildcard owner -> (model.node owner).allows wildcard = true

structure SameMarks (old new : Model) : Prop where
  allows : ∀ id wildcard, (new.node id).allows wildcard = (old.node id).allows wildcard

section

variable {model old new : Model} {id owner : NodeId} {wildcard : Wildcard}

theorem enclosing_congr (ancestors : new.ancestors id = old.ancestors id)
    (kind : ∀ outer ∈ old.ancestors id, (new.node outer).kind = (old.node outer).kind)
    (accepts : Kind -> Bool) : new.enclosing id accepts = old.enclosing id accepts := by
  unfold enclosing
  rw [ancestors]
  refine List.find?_congr fun outer around => ?_
  simp only [kind outer around]

theorem Loosens.congr (kind : ∀ id, (new.node id).kind = (old.node id).kind)
    (parent : ∀ id, (new.node id).parent = (old.node id).parent) :
    new.Loosens id wildcard owner ↔ old.Loosens id wildcard owner := by
  unfold Loosens
  rw [kind, enclosing_congr (ancestors_congr parent id) fun outer _ => kind outer]

theorem Hosts.congr (kind : ∀ id, (new.node id).kind = (old.node id).kind)
    (parent : ∀ id, (new.node id).parent = (old.node id).parent) :
    new.Hosts wildcard owner ↔ old.Hosts wildcard owner :=
  exists_congr fun _ => Loosens.congr kind parent

theorem ancestors_congr_below (parent : ∀ other : NodeId, other.index ≤ id.index ->
    (new.node other).parent = (old.node other).parent) :
    new.ancestors id = old.ancestors id := by
  obtain ⟨index⟩ := id
  induction index using Nat.strongRecOn with
  | ind index ih =>
    rw [ancestors, ancestors, parent ⟨index⟩ (Nat.le_refl _)]
    split
    next => rfl
    next outer _ =>
      split
      next lower =>
        rw [ih outer.index lower fun other below =>
          parent other (Nat.le_of_lt (Nat.lt_of_le_of_lt below lower))]
      next => rfl

theorem allows_markWildcard (model : Model) (id other : NodeId) (marked wildcard : Wildcard) :
    ((model.markWildcard id (Node.allow marked)).node other).allows wildcard = true ↔
      (model.node other).allows wildcard = true ∨
        marked = wildcard ∧ model.enclosing id Kind.ownsWildcards = some other := by
  unfold markWildcard
  split
  next owner found =>
    -- a node that owns wildcards is there, so it can be marked
    have there : owner.index < model.nodes.size := by
      by_contra outside
      have owns := (enclosing_spec found).2
      rw [node_of_size_le model (Nat.not_lt.mp outside)] at owns
      cases owns
    rw [node_changeNode, found]
    by_cases same : other = owner
    next =>
      subst same
      simp [there, or_comm]
    next => simp [same, Ne.symm same]
  next none_ => simp [none_]

theorem SameMarks.of_nodes (same : new.nodes = old.nodes) : old.SameMarks new :=
  ⟨fun id wildcard => congrArg (fun node => node.allows wildcard) (Draft.node_congr same id)⟩

theorem SameMarks.refl (model : Model) : model.SameMarks model := .of_nodes rfl

theorem SameMarks.trans {middle : Model} (first : old.SameMarks middle)
    (second : middle.SameMarks new) : old.SameMarks new :=
  ⟨fun id wildcard => (second.allows id wildcard).trans (first.allows id wildcard)⟩

theorem Still.sameMarks (still : old.Still new) : old.SameMarks new :=
  ⟨fun id wildcard => Node.allows_of_told (still.told id) wildcard⟩

theorem sameMarks_changeNode (model : Model) (id : NodeId) {f : Node -> Node}
    (keeps : ∀ node wildcard, (f node).allows wildcard = node.allows wildcard) :
    model.SameMarks (model.changeNode id f) :=
  ⟨fun other wildcard => keeps_changeNode (fun node => node.allows wildcard) model id other
    fun node => keeps node wildcard⟩

theorem MarksHosts.congr (hosted : old.MarksHosts) (same : old.SameMarks new)
    (kind : ∀ id, (new.node id).kind = (old.node id).kind)
    (parent : ∀ id, (new.node id).parent = (old.node id).parent) : new.MarksHosts := by
  intro owner wildcard marked
  rw [same.allows] at marked
  exact (Hosts.congr kind parent).mpr (hosted owner wildcard marked)

theorem HostsMarked.congr (marked : old.HostsMarked) (same : old.SameMarks new)
    (kind : ∀ id, (new.node id).kind = (old.node id).kind)
    (parent : ∀ id, (new.node id).parent = (old.node id).parent) : new.HostsMarked := by
  intro owner wildcard hosts
  rw [same.allows]
  exact marked owner wildcard ((Hosts.congr kind parent).mp hosts)

theorem sameMarks_declareOccurs (model : Model) (id : NodeId) :
    model.SameMarks (model.declareOccurs id).state :=
  ⟨fun other wildcard => look_declareOccurs (Node.enduring_allows wildcard) model id other⟩

theorem sameMarks_declare (model : Model) (id : NodeId)
    (plain : ∀ wildcard : Wildcard, (model.node id).kind ≠ wildcard.kind) :
    model.SameMarks (model.declare id).state :=
  ⟨fun other wildcard => look_declare (Node.enduring_allows wildcard) model id other
    (fun kind => absurd kind (plain .content)) fun kind => absurd kind (plain .attributes)⟩

structure Reflects (model : Model) (id : NodeId) (attempt : Attempt Model) : Prop where
  only : ∀ owner wildcard, (attempt.state.node owner).allows wildcard = true ->
    (model.node owner).allows wildcard = true ∨ model.Loosens id wildcard owner
  all : attempt.failure = none -> ∀ owner wildcard,
    (model.node owner).allows wildcard = true ∨ model.Loosens id wildcard owner ->
      (attempt.state.node owner).allows wildcard = true

theorem Reflects.plain {attempt : Attempt Model} (same : model.SameMarks attempt.state)
    (kind : ∀ wildcard : Wildcard, (model.node id).kind ≠ wildcard.kind) :
    model.Reflects id attempt where
  only owner wildcard marked := .inl ((same.allows owner wildcard).symm.trans marked)
  all _ owner wildcard either :=
    (same.allows owner wildcard).trans (either.resolve_right fun loosens => kind wildcard loosens.1)

theorem reflects_markWildcard {between : Model} (retains : model.Retains between)
    (same : model.SameMarks between) (kind : (model.node id).kind = wildcard.kind) :
    model.Reflects id (.done (between.markWildcard id (Node.allow wildcard))) := by
  have around : between.enclosing id Kind.ownsWildcards =
      model.enclosing id Kind.ownsWildcards := by
    refine enclosing_congr (ancestors_congr (fun other => ?_) id) (fun outer _ => ?_) _
    · exact (congrArg Node.parent (retains.written other) :)
    · exact Node.kind_of_written (retains.written outer)
  constructor
  · intro owner other marked
    rcases (allows_markWildcard ..).mp marked with before | ⟨rfl, found⟩
    · exact .inl ((same.allows owner other).symm.trans before)
    · exact .inr ⟨kind, around.symm.trans found⟩
  · rintro - owner other (before | ⟨again, found⟩)
    · exact (allows_markWildcard ..).mpr (.inl ((same.allows owner other).trans before))
    · exact (allows_markWildcard ..).mpr
        (.inr ⟨Wildcard.eq_of_kind (kind.symm.trans again), around.trans found⟩)

theorem reflects_declare (model : Model) (id : NodeId) : model.Reflects id (model.declare id) := by
  by_cases is : ∃ wildcard : Wildcard, (model.node id).kind = wildcard.kind
  next =>
    obtain ⟨wildcard, kind⟩ := is
    unfold declare
    cases wildcard with
    | content =>
      -- the bounds of the tag are read first, and the document may be given up there
      have bounded := sameMarks_declareOccurs model id
      rw [kind]
      dsimp only [Wildcard.kind]
      unfold Attempt.andThen
      split
      next => exact reflects_markWildcard (retains_declareOccurs model id) bounded kind
      next stopped =>
        refine ⟨fun owner wildcard marked => ?_, fun going => ?_⟩
        · exact .inl ((bounded.allows owner wildcard).symm.trans marked)
        · cases stopped.symm.trans going
    | attributes =>
      rw [kind]
      exact reflects_markWildcard (.refl model) (.refl model) kind
  next =>
    have plain : ∀ wildcard : Wildcard, (model.node id).kind ≠ wildcard.kind := not_exists.mp is
    exact .plain (sameMarks_declare model id plain) plain

end

end Model

namespace Draft

variable {draft : Draft} {id : NodeId}

theorem reflects_declare (draft : Draft) (id : NodeId) :
    draft.model.Reflects id ((draft.declare id).map Draft.model) := by
  have request (kind : ∀ wildcard : Wildcard, (draft.model.node id).kind ≠ wildcard.kind) :
      draft.model.Reflects id ((draft.declareImport id).map Draft.model) := by
    refine .plain (.of_nodes ?_) kind
    have nodes := (registerImport_sources draft id).1
    unfold declareImport
    dsimp only [Attempt.map]
    split
    next => exact nodes
    next => split <;> exact nodes
  have schema : draft.model.SameMarks ((draft.declareSchema id).map Draft.model).state := by
    have nodes := (draft.model.stores_registerRoot draft.document).1
    unfold declareSchema
    split
    next => exact .refl _
    next =>
      dsimp only [Attempt.map, Attempt.done]
      rw [Model.declareSource_eq]
      refine ⟨fun other wildcard => ?_⟩
      refine (Model.keeps_changeNode (fun node => node.allows wildcard) _ id other
        fun _ => ?_).trans ?_
      · cases wildcard <;> rfl
      · exact congrArg (fun node => node.allows wildcard) (node_congr nodes other)
  unfold declare
  split
  next kind => exact .plain schema fun wildcard => by cases wildcard <;> simp [kind, Wildcard.kind]
  next kind => exact request fun wildcard => by cases wildcard <;> simp [kind, Wildcard.kind]
  next kind => exact request fun wildcard => by cases wildcard <;> simp [kind, Wildcard.kind]
  next => exact Model.reflects_declare draft.model id

theorem Tells.standing {new : Draft} (tells : draft.Tells id new) (other : NodeId) :
    (new.model.node other).kind = (draft.model.node other).kind ∧
      (new.model.node other).parent = (draft.model.node other).parent := by
  cases tells with
  | source =>
    have nodes := (draft.model.stores_registerRoot draft.document).1
    rw [Model.declareSource_eq]
    generalize (draft.model.registerRoot draft.document).1 = root at nodes
    rw [← node_congr nodes other]
    exact ⟨Model.keeps_changeNode Node.kind _ id other fun _ => rfl,
      Model.keeps_changeNode Node.parent _ id other fun _ => rfl⟩
  | second => exact ⟨rfl, rfl⟩
  | request =>
    have node := node_congr (registerImport_sources draft id).1 other
    exact ⟨congrArg Node.kind node, congrArg Node.parent node⟩
  | other =>
    have written := (Model.retains_declare draft.model id).written other
    exact ⟨Node.kind_of_written written, (congrArg Node.parent written :)⟩

theorem hosts_withTag {outer : ScopeId} {node : Node} {wildcard : Wildcard} {owner : NodeId} :
    (draft.withTag outer node).model.Hosts wildcard owner ↔
      draft.model.Hosts wildcard owner ∨
        (draft.withTag outer node).model.Loosens draft.model.nextNode wildcard owner := by
  have earlier {id : NodeId} (below : id.index < draft.model.nodes.size) :
      (draft.withTag outer node).model.node id = draft.model.node id := by
    rw [node_withTag, if_neg]
    rintro rfl
    exact Nat.lt_irrefl _ below
  have loosens {id : NodeId} (below : id.index < draft.model.nodes.size) :
      (draft.withTag outer node).model.Loosens id wildcard owner ↔
        draft.model.Loosens id wildcard owner := by
    unfold Model.Loosens
    rw [earlier below, Model.enclosing_congr (Model.ancestors_congr_below fun other lower => ?_)
      fun outer around => ?_]
    · exact congrArg Node.parent (earlier (Nat.lt_of_le_of_lt lower below))
    · exact congrArg Node.kind (earlier (Nat.lt_trans (Model.mem_ancestors_lt around) below))
  -- a node that is not there is no tag for a wildcard
  have there {model : Model} {id : NodeId} (loosens : model.Loosens id wildcard owner) :
      id.index < model.nodes.size := by
    by_contra outside
    have kind := loosens.1
    rw [Model.node_of_size_le model (Nat.not_lt.mp outside)] at kind
    cases wildcard <;> cases kind
  constructor
  · rintro ⟨id, found⟩
    by_cases last : id = draft.model.nextNode
    next => exact .inr (last ▸ found)
    next =>
      have size : (draft.withTag outer node).model.nodes.size = draft.model.nodes.size + 1 :=
        Model.size_addNode ..
      have within := there found
      have apart : id.index ≠ draft.model.nodes.size := fun same => last (congrArg NodeId.mk same)
      exact .inl ⟨id, (loosens (by omega)).mp found⟩
  · rintro (⟨id, found⟩ | found)
    · exact ⟨id, (loosens (there found)).mpr found⟩
    · exact ⟨_, found⟩

theorem sameMarks_withTag {outer : ScopeId} {node : Node} (fresh : node.written = node) :
    draft.model.SameMarks (draft.withTag outer node).model := by
  refine ⟨fun id wildcard => ?_⟩
  rw [node_withTag]
  split
  next last =>
    have missing : draft.model.node draft.model.nextNode = default :=
      Model.node_of_size_le draft.model (Nat.le_refl _)
    rw [last, missing, Node.allows_of_written fresh]
    cases wildcard <;> rfl
  next => rfl

theorem Move.marksHosts {attempt : Attempt Draft} (move : draft.Move attempt)
    (hosted : draft.model.MarksHosts) : attempt.state.model.MarksHosts := by
  cases move with
  | root => exact hosted
  | still model tasks still =>
    exact hosted.congr still.sameMarks (fun id => (congrArg Node.kind (still.told id) :))
      fun id => (congrArg Node.parent (still.told id) :)
  | body => exact hosted.congr (.of_nodes rfl) (fun _ => rfl) fun _ => rfl
  | tag outer node fresh =>
    intro owner wildcard marked
    have standing := (tells_declare (draft.withTag outer node) draft.model.nextNode).standing
    refine (Model.Hosts.congr (fun id => (standing id).1) fun id => (standing id).2).mpr
      (hosts_withTag.mpr ?_)
    refine ((reflects_declare ..).only owner wildcard marked).imp_left fun before => ?_
    rw [(sameMarks_withTag fresh).allows] at before
    exact hosted owner wildcard before

theorem Move.hostsMarked {attempt : Attempt Draft} (move : draft.Move attempt)
    (going : attempt.failure = none) (marked : draft.model.HostsMarked) :
    attempt.state.model.HostsMarked := by
  cases move with
  | root => exact marked
  | still model tasks still =>
    exact marked.congr still.sameMarks (fun id => (congrArg Node.kind (still.told id) :))
      fun id => (congrArg Node.parent (still.told id) :)
  | body => exact marked.congr (.of_nodes rfl) (fun _ => rfl) fun _ => rfl
  | tag outer node fresh =>
    intro owner wildcard hosts
    have standing := (tells_declare (draft.withTag outer node) draft.model.nextNode).standing
    have before := hosts_withTag.mp
      ((Model.Hosts.congr (fun id => (standing id).1) fun id => (standing id).2).mp hosts)
    refine (reflects_declare ..).all going owner wildcard (before.imp_left fun earlier => ?_)
    exact ((sameMarks_withTag fresh).allows owner wildcard).trans (marked owner wildcard earlier)

end Draft

namespace Model

theorem allows_empty (owner : NodeId) (wildcard : Wildcard) :
    (empty.node owner).allows wildcard = false := by
  rcases node_empty owner with ⟨-, same⟩ | ⟨localName, -, same⟩ <;> rw [same] <;>
    cases wildcard <;> rfl

theorem not_hosts_empty (owner : NodeId) (wildcard : Wildcard) : ¬ empty.Hosts wildcard owner := by
  rintro ⟨id, -, found⟩
  have alone : empty.ancestors id = [] := by
    refine ancestors_of_root ?_
    rcases node_empty id with ⟨-, same⟩ | ⟨localName, -, same⟩ <;> rw [same] <;> rfl
  simp [enclosing, alone] at found

end Model

namespace Compilation

variable {options : Options} {fetch : Fetch} {old new : Compilation}

theorem Changes.marksHosts (changes : Changes options fetch .empty new) :
    new.model.MarksHosts := by
  refine changes.keeps_model ⟨fun move => move.marksHosts, fun _ _ hosted => ?_⟩ ?_
  · exact hosted.congr (.of_nodes rfl) (fun _ => rfl) fun _ => rfl
  · intro owner wildcard marked
    cases (Model.allows_empty owner wildcard).symm.trans marked

theorem Change.intact (change : Change options fetch old new) (intact : new.Intact) :
    old.Intact := by
  intro id failed
  have within := Sound.within_of_ended (by rw [failed]; decide)
  have state := congrArg Document.state (change.core within).2
  exact intact id (state.trans failed)

theorem Change.hostsMarked (change : Change options fetch old new) (intact : new.Intact)
    (marked : old.model.HostsMarked) : new.model.HostsMarked := by
  cases change with
  | link requested fetched =>
    rw [model_withAlias]
    exact marked
  | parse requested adopted fetched =>
    let draft : Draft := ⟨old.model, .fresh fetched.canonical requested adopted⟩
    have read (going : (draft.read options.limits fetched.bytes).failure = none) :
        (draft.read options.limits fetched.bytes).state.model.HostsMarked :=
      (draft.moves_read options.limits fetched.bytes).1.keeps_going going marked
        fun move going => move.hostsMarked going
    unfold Compilation.parse at intact ⊢
    dsimp only at intact ⊢
    split at intact
    next going =>
      exact read going
    next =>
      -- the last document is the one that was given up
      refine absurd ?_ (intact ⟨old.documents.size⟩)
      simp [Compilation.document]
  | depend => exact marked
  | noteFailure => exact marked

theorem Changes.hostsMarked (changes : Changes options fetch .empty new) (intact : new.Intact) :
    new.model.HostsMarked := by
  induction changes with
  | refl => exact fun owner wildcard hosts => absurd hosts (Model.not_hosts_empty owner wildcard)
  | tail _ change ih => exact change.hostsMarked intact (ih (change.intact intact))

end Compilation

end XmlSchema
