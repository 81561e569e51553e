import XmlSchema.Proofs.Documents.Labels
import XmlSchema.Proofs.Documents.States

set_option autoImplicit false

namespace XmlSchema

structure Draft.Keeps (holds : Model -> Prop) : Prop where
  move : ∀ {draft : Draft} {attempt : Attempt Draft}, draft.Move attempt -> holds draft.model ->
    holds attempt.state.model
  abandon : ∀ (model : Model) (tasks : Array TaskId), holds model ->
    holds (Compilation.abandon model tasks)

theorem Draft.Keeps.moves {holds : Model -> Prop} (keeps : Draft.Keeps holds) {draft : Draft}
    {attempt : Attempt Draft} (moves : draft.Moves attempt) (before : holds draft.model) :
    holds attempt.state.model :=
  @Draft.Moves.keeps draft attempt moves (fun draft => holds draft.model) before keeps.move

namespace Compilation

variable {options : Options} {fetch : Fetch} {url : Url} {old new : Compilation}
  {adopted : Option String} {model : Model} {holds : Model -> Prop}

theorem keeps_parse (keeps : Draft.Keeps holds) (before : holds old.model) (requested : Url)
    (adopted : Option String) (fetched : Fetched) :
    holds (old.parse options requested adopted fetched).compilation.model := by
  have moves := (Draft.moves_read ⟨old.model, .fresh fetched.canonical requested adopted⟩
    options.limits fetched.bytes).1
  have read := keeps.moves moves before
  unfold parse
  dsimp only
  split
  · exact read
  · exact keeps.abandon _ _ read

theorem Changes.keeps_model (changes : Changes options fetch old new) (keeps : Draft.Keeps holds)
    (before : holds old.model) : holds new.model := by
  induction changes with
  | refl => exact before
  | tail _ change ih =>
      refine change.keeps_model ih (fun _ _ _ => ?_) keeps.abandon
      exact keeps.moves (Draft.moves_read ..).1 ih

theorem Loading.keeps (loading : old.Loading options fetch url adopted model)
    (keeps : Draft.Keeps holds) (before : holds old.model) : holds model := by
  cases loading with
  | before => exact before
  | @reading fetched count takes =>
      have placed := Reading.placed_start old.model
        (.fresh fetched.canonical url (options.grants adopted))
      exact keeps.moves (placed.steps options.limits
        ((Markup.scan fetched.bytes).items.take count)).moves before
  | after =>
      rcases load_cases options fetch old url adopted with
        ⟨fetched, -, same⟩ | same | ⟨fetched, -, same⟩ <;> rw [same]
      · refine keeps_parse keeps ?_ ..
        rw [model_withAlias]
        exact before
      · exact before
      · rw [model_withAlias]
        exact before

theorem Reached.keeps (reached : Reached options fetch url model) (keeps : Draft.Keeps holds)
    (start : holds .empty)
    (work : ∀ {read : Compilation} {pass : Pass}, gather options fetch url = .ok read ->
      holds read.model -> Pass.Reaches read.outset pass -> holds pass.model) : holds model := by
  cases reached with
  | root loading => exact loading.keeps keeps start
  | request arrives loading => exact loading.keeps keeps (arrives.changes.keeps_model keeps start)
  | work gathered reaches =>
      exact work gathered ((gather_arrives gathered).changes.keeps_model keeps start) reaches

end Compilation

end XmlSchema
