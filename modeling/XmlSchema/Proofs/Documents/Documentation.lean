import XmlSchema.Proofs.Reading.Documentation
import XmlSchema.Proofs.Resolution.Completion
import XmlSchema.Proofs.Resolution.Records

set_option autoImplicit false

namespace XmlSchema

namespace Model

theorem lasting_account (told : Kind × Option NodeId × String × List String) :
    Lasting fun node => node.account = told := by
  constructor <;> intros <;> assumption

theorem account_prepare (model : Model) (id other : NodeId) :
    ((model.prepare id).1.node other).account = (model.node other).account := by
  refine holds_prepare (fun node => node.account = (model.node other).account) ?_ ?_ ?_ ?_ rfl
  all_goals
    intros
    assumption

end Model

namespace Pass

variable {pass next : Pass}

theorem Step.account (step : Step pass next) (id : NodeId) :
    (next.model.node id).account = (pass.model.node id).account := by
  cases step with
  | enter model task => exact (model.mark .running task).account_prepare _ id
  | skip => rfl
  | ignore => rfl
  | leave model => exact holds_leave (Model.lasting_account (model.node id).account) rfl
  | circle model => exact holds_leave (Model.lasting_account (model.node id).account) rfl

theorem Reaches.account (reaches : Reaches pass next) (id : NodeId) :
    (next.model.node id).account = (pass.model.node id).account := by
  induction reaches with
  | refl => rfl
  | tail _ step ih => exact (step.account id).trans ih

end Pass

namespace Compilation

def onset (compilation : Compilation) (requested : Url) (adopted : Option String)
    (fetched : Fetched) : Reading :=
  .start compilation.model (.fresh fetched.canonical requested adopted)

structure ReadOn (options : Options) (fetch : Fetch) (compilation : Compilation) (id : DocumentId)
    (old : Compilation) (requested : Url) (adopted : Option String) (fetched : Fetched) : Prop where
  before : Changes options fetch .empty old
  place : id.index = old.documents.size
  found : fetch requested = .ok fetched
  ended : ((old.onset requested adopted fetched).draft.read options.limits fetched.bytes).failure =
    none
  document : (compilation.document id).core =
    { ((old.onset requested adopted fetched).draft.read options.limits
        fetched.bytes).state.document with state := .finished }.core
  within : ((old.onset requested adopted fetched).steps options.limits
    (Markup.scan fetched.bytes).items).state.model.nodes.size ≤ compilation.model.nodes.size
  tags : ∀ node, compilation.model.IsTag node ->
    ((compilation.model.node node).source = (compilation.document id).source ↔
      old.model.nodes.size ≤ node.index ∧
        node.index < ((old.onset requested adopted fetched).steps options.limits
          (Markup.scan fetched.bytes).items).state.model.nodes.size)

def Documented (options : Options) (fetch : Fetch) (compilation : Compilation) : Prop :=
  ∀ id, (compilation.document id).state = .finished -> ∃ old requested adopted fetched,
    compilation.ReadOn options fetch id old requested adopted fetched ∧
      (old.onset requested adopted fetched).Documents options.limits
        (Markup.scan fetched.bytes).items compilation.model

section

variable {options : Options} {fetch : Fetch} {url : Url} {old new : Compilation}

theorem Documented.kept (documented : old.Documented options fetch)
    (size : old.model.nodes.size ≤ new.model.nodes.size)
    (account : ∀ node : NodeId, node.index < old.model.nodes.size ->
      (new.model.node node).account = (old.model.node node).account ∧
        (new.model.node node).source = (old.model.node node).source) {id : DocumentId}
    (core : (new.document id).core = (old.document id).core)
    (foreign : ∀ node, new.model.IsTag node -> old.model.nodes.size ≤ node.index ->
      (new.model.node node).source ≠ (old.document id).source)
    (finished : (new.document id).state = .finished) : ∃ first requested adopted fetched,
      new.ReadOn options fetch id first requested adopted fetched ∧
        (first.onset requested adopted fetched).Documents options.limits
          (Markup.scan fetched.bytes).items new.model := by
  have state : (new.document id).state = (old.document id).state :=
    (congrArg Document.state core :)
  have source : (new.document id).source = (old.document id).source :=
    (congrArg Document.source core :)
  obtain ⟨first, requested, adopted, fetched, read, documents⟩ :=
    documented id (state.symm.trans finished)
  refine ⟨first, requested, adopted, fetched,
    { read with
      document := core.trans read.document
      within := Nat.le_trans read.within size
      tags := fun node tag => ?_ },
    documents.congr fun node within => ?_⟩
  · rw [source]
    by_cases within : node.index < old.model.nodes.size
    · rw [(account node within).2]
      exact read.tags node ⟨tag.1, within⟩
    · refine iff_of_false (foreign node tag (Nat.not_lt.mp within)) fun own => within ?_
      exact Nat.lt_of_lt_of_le own.2 read.within
  · exact (account node (Nat.lt_of_lt_of_le within read.within)).1

theorem account_parse (sound : old.Sound) (options : Options) (requested : Url)
    (adopted : Option String) (fetched : Fetched) {id : NodeId}
    (within : id.index < old.model.nodes.size) :
    (((old.parse options requested adopted fetched).compilation.model).node id).account =
      (old.model.node id).account := by
  obtain ⟨-, _, joined, -⟩ := sound.joined options requested adopted fetched rfl
  have begins : (old.onset requested adopted fetched).Sound old.model :=
    Draft.sound_start sound.gathered rfl rfl
  rw [joined.node, Draft.state_read]
  exact Reading.account_steps_of_old sound.gathered begins within (Reading.avoids_start within _) _

theorem Change.documented (change : Change options fetch old new)
    (before : Changes options fetch .empty old) (documented : old.Documented options fetch) :
    new.Documented options fetch := by
  have sound := before.sound
  have still (model : new.model = old.model)
      (documents : new.documents.size = old.documents.size) : new.Documented options fetch := by
    intro id finished
    have core := (change.core (documents ▸ Sound.within_of_finished finished)).2
    have size : new.model.nodes.size = old.model.nodes.size := congrArg (·.nodes.size) model
    refine documented.kept (Nat.le_of_eq size.symm) (fun node _ => ?_) core (fun node tag above => ?_)
      finished
    · rw [model]
      exact ⟨rfl, rfl⟩
    · exact absurd (size ▸ tag.2) (Nat.not_lt.mpr above)
  cases change with
  | link => exact still (by simp) (by simp)
  | depend => exact still rfl (by simp)
  | noteFailure => exact still rfl rfl
  | parse requested adopted fetched found unknown plain =>
    intro id finished
    obtain ⟨read, state, joined, ended⟩ := sound.joined options requested adopted fetched rfl
    rcases joined.either (Sound.within_of_finished finished) with earlier | rfl
    · have core := joined.before earlier
      rw [core] at finished
      obtain ⟨sourced, -⟩ := sound.finished id earlier finished
      obtain ⟨shared, one⟩ := Option.ne_none_iff_exists'.mp sourced
      refine documented.kept ?_ (fun node within => ⟨?_, joined.oldSource read within⟩)
        (congrArg Document.core core) (fun node tag above same => ?_) (core ▸ finished)
      · rw [joined.nodes]
        exact read.kept.nodes
      · exact account_parse sound options requested adopted fetched within
      · rw [joined.newSource read tag above, one] at same
        exact joined.apart read sound earlier one same
    · rw [joined.last] at finished
      obtain rfl : state = .finished := finished
      have going := ended rfl
      obtain ⟨proceeds, alone, -⟩ := Draft.ended_read going
      have documents := Reading.documents_start sound.gathered rfl rfl proceeds alone
      have complete := (Draft.read_sound sound.gathered rfl rfl options.limits fetched.bytes).2 going
      obtain ⟨shared, own⟩ := Option.ne_none_iff_exists'.mp complete.source
      -- the model is that in which the last item has left it
      have nodes := joined.nodes
      rw [Draft.state_read] at nodes
      have size := congrArg Array.size nodes
      refine ⟨old, requested, adopted, fetched,
        ⟨before, rfl, found, going, ?_, Nat.le_of_eq size.symm, fun node tag => ?_⟩,
        documents.congr fun node _ => congrArg Node.account (Draft.node_congr nodes node)⟩
      · rw [joined.last]
        rfl
      · rw [joined.last]
        constructor
        · refine fun same => ⟨Nat.not_lt.mp fun within => ?_, Nat.lt_of_lt_of_eq tag.2 size⟩
          obtain ⟨document, inside, source⟩ := sound.owner node ⟨tag.1, within⟩
          rw [joined.oldSource read within, source, joined.source, own] at same
          exact joined.apart read sound inside same (joined.source.trans own)
        · exact fun range => joined.newSource read tag range.1

theorem documented_empty : empty.Documented options fetch := by
  intro id finished
  exact absurd (Sound.within_of_finished finished) (Nat.not_lt_zero _)

theorem Changes.documented (changes : Changes options fetch .empty new) :
    new.Documented options fetch := by
  induction changes with
  | refl => exact documented_empty
  | tail before change ih => exact change.documented before ih

theorem reserved_empty : empty.model.Reserved := by
  intro id _
  rcases Model.node_empty id with ⟨-, missing⟩ | ⟨localName, -, same⟩
  · exact congrArg Node.text missing
  · exact congrArg Node.text same

theorem Change.reserved (change : Change options fetch old new) (reserved : old.model.Reserved) :
    new.model.Reserved := by
  refine change.keeps_model reserved (fun requested adopted fetched => ?_) fun _ _ read => read
  rw [Draft.state_read]
  exact Reading.reserved_steps (Reading.Attends.start old.model _) reserved _

theorem Changes.reserved (changes : Changes options fetch .empty new) : new.model.Reserved :=
  changes.keeps reserved_empty fun change => change.reserved

/-- In each document that is read to its end, every documentation tag that has a node has the trimmed
texts inside it when it closes, joined by single spaces, and hands them on once, to the nearest tag
around it that may be documented. So the documentation of a tag lists the texts of its documentation
tags in the order in which they closed, but for empty ones. No other tag takes any text. -/
theorem compile_documentation {compilation : Compilation}
    (compiled : compile options fetch url = .ok compilation) :
    compilation.Documented options fetch ∧ compilation.model.Reserved := by
  obtain ⟨read, gathered, sound, rfl⟩ := compile_ok compiled
  have changes := (gather_arrives gathered).changes
  have account (id : NodeId) : (read.resolve.model.node id).account = (read.model.node id).account :=
    read.resolve_reaches.account id
  have documents := (resolve_eq read).2
  have alike := sound.ended.alike
  refine ⟨fun id finished => ?_, fun id kind => ?_⟩
  · refine changes.documented.kept (Nat.le_of_eq alike.size.symm)
      (fun node _ => ⟨account node, alike.source node⟩) ?_ (fun node tag above => ?_) finished
    · exact congrArg Document.core (document_congr documents id)
    · exact absurd (alike.size ▸ tag.2) (Nat.not_lt.mpr above)
  · rw [Node.kind_of_account (account id)] at kind
    rw [Node.text_of_account (account id)]
    exact changes.reserved id kind

def piecesText : String :=
  "<x:schema xmlns:x='http://www.w3.org/2001/XMLSchema'><x:element name='e'><x:annotation>" ++
    "<x:documentation> One <b>two<![CDATA[ three]]></b>\n four </x:documentation>" ++
      "</x:annotation></x:element></x:schema>"

set_option maxRecDepth 100000 in
theorem compile_documentation_pieces :
    ∃ compilation, compile .standard (serving piecesText) someUrl = .ok compilation ∧
      (compilation.model.node ⟨47⟩).documentation = ["One two three four"] ∧
      ∃ (old : Compilation) (requested : Url) (adopted : Option String) (fetched : Fetched),
      ∃ before opening inner closing,
        (old.onset requested adopted fetched).Captures Options.standard.limits compilation.model
          ⟨49⟩ ⟨47⟩ before opening inner closing ∧
        Reading.prose inner = "One two three four" := by
  have checked : (Gathering.start .standard (serving piecesText) someUrl).toOption.any
      (fun gathering =>
        let model := gathering.compilation.model.runAll (gathering.compilation.duties ⟨0⟩)
        Alone gathering ∧ model.IsTag ⟨49⟩ ∧
          (model.node ⟨49⟩).source = (gathering.compilation.document ⟨0⟩).source ∧
          (model.node ⟨49⟩).kind = .documentation ∧ (model.node ⟨49⟩).text = "One two three four" ∧
          model.enclosing ⟨49⟩ Kind.isDocumented = some ⟨47⟩ ∧
          (model.node ⟨47⟩).documentation = ["One two three four"]) = true := by
    rw [serving_eq]
    decide +kernel
  cases started : Gathering.start .standard (serving piecesText) someUrl with
  | error failure =>
    rw [started] at checked
    cases checked
  | ok gathering =>
    rw [started] at checked
    obtain ⟨alone, tag, source, kind, text, around, lists⟩ := of_decide_eq_true checked
    obtain ⟨compilation, compiled, documents, model⟩ := compile_of_alone started alone
    have first : compilation.document ⟨0⟩ = gathering.compilation.document ⟨0⟩ :=
      document_congr documents ⟨0⟩
    rw [← first, ← model] at source
    rw [← model] at tag kind text around lists
    obtain ⟨documented, -⟩ := compile_documentation compiled
    obtain ⟨old, requested, adopted, fetched, read, comes⟩ :=
      documented ⟨0⟩ (first ▸ alone.2.2.2)
    obtain ⟨above, within⟩ := (read.tags ⟨49⟩ tag).mp source
    obtain ⟨owner, before, opening, inner, closing, -, -, captures⟩ :=
      comes.captures ⟨49⟩ above within kind
    obtain rfl := Option.some.inj (captures.enclosing.symm.trans around)
    exact ⟨compilation, compiled, lists, old, requested, adopted, fetched, before, opening, inner,
      closing, captures, captures.kept.symm.trans text⟩

end

end Compilation

end XmlSchema
