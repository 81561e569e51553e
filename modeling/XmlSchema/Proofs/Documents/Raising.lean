import XmlSchema.Proofs.Documents.Service
import XmlSchema.Proofs.Reading.Depth

set_option autoImplicit false

namespace XmlSchema

namespace Limits

def AtMost (limits more : Limits) : Prop :=
  ∀ measure, limits.maximum measure ≤ more.maximum measure

theorem AtMost.check {limits more : Limits} (raised : limits.AtMost more) {measure : Measure}
    {value : Nat} (within : limits.check measure value = .ok ()) :
    more.check measure value = .ok () := by
  unfold Limits.check at within ⊢
  split at within
  next => cases within
  next inside => exact if_neg fun passed => inside (Nat.lt_of_le_of_lt (raised measure) passed)

end Limits

namespace Options

def withLimits (options : Options) (limits : Limits) : Options := { options with limits := limits }

end Options

theorem Failure.isLimit_iff (failure : Failure) :
    failure.IsLimit ↔ failure.category = "LimitExceeded" := by
  cases failure with
  | limit => exact ⟨fun _ => rfl, fun _ => trivial⟩
  | name fault => cases fault <;> simp [Failure.IsLimit, Failure.category]
  | _ => simp [Failure.IsLimit, Failure.category]

instance (failure : Failure) : Decidable failure.IsLimit :=
  decidable_of_iff _ failure.isLimit_iff.symm

namespace Attempt

variable {σ τ : Type}

def Unlimited (attempt : Attempt σ) : Prop :=
  ∀ failure, attempt.failure = some failure -> ¬ failure.IsLimit

theorem not_unlimited_stopped (state : σ) (exceeded : Limits.Exceeded) :
    ¬ (Attempt.stopped state (.limit exceeded)).Unlimited :=
  fun unlimited => unlimited _ rfl trivial

theorem Unlimited.of_andThen {attempt : Attempt σ} {next : σ -> Attempt σ}
    (unlimited : (attempt.andThen next).Unlimited) : attempt.Unlimited := by
  intro failure stopped
  refine unlimited failure ?_
  rw [andThen, stopped]
  exact stopped

end Attempt

section

variable {limits more : Limits}

namespace Reading

variable {reading : Reading}

theorem permits_raised (raised : limits.AtMost more) {attributes : List (String × String)}
    (allowed : permits limits reading attributes = .ok ()) :
    permits more reading attributes = .ok () := by
  unfold permits at allowed ⊢
  split at allowed
  next => cases allowed
  next within =>
    rw [raised.check within]
    exact raised.check allowed

theorem openTag_raised (raised : limits.AtMost more) {line : Nat} {written : String}
    {attributes : List (String × String)}
    (unlimited : (reading.openTag limits line written attributes).Unlimited) :
    reading.openTag more line written attributes =
      reading.openTag limits line written attributes := by
  unfold openTag at unlimited ⊢
  cases allowed : permits limits reading attributes with
  | error exceeded =>
    rw [allowed] at unlimited
    exact absurd unlimited (Attempt.not_unlimited_stopped _ _)
  | ok => rw [permits_raised raised allowed]

theorem step_raised (raised : limits.AtMost more) {item : Markup.Item}
    (unlimited : (reading.step limits item).Unlimited) :
    reading.step more item = reading.step limits item := by
  unfold step at unlimited ⊢
  split
  next => rfl
  next name attributes is =>
    rw [is] at unlimited
    exact openTag_raised raised unlimited
  next => rfl
  next => rfl

theorem steps_raised (raised : limits.AtMost more) {items : List Markup.Item}
    (unlimited : (reading.steps limits items).Unlimited) :
    reading.steps more items = reading.steps limits items := by
  induction items generalizing reading with
  | nil => rfl
  | cons item rest ih =>
    unfold steps at unlimited ⊢
    dsimp only at unlimited ⊢
    -- whether it stops or goes on, the first event is read as before
    have first : (reading.step limits item).Unlimited := by
      intro failure stopped
      rw [stopped] at unlimited
      exact unlimited failure stopped
    rw [step_raised raised first]
    split
    next going =>
      rw [going] at unlimited
      exact ih unlimited
    next => rfl

end Reading

theorem Draft.read_raised (raised : limits.AtMost more) {draft : Draft} {bytes : List UInt8}
    (unlimited : (draft.read limits bytes).Unlimited) :
    draft.read more bytes = draft.read limits bytes := by
  have steps : ((Reading.start draft.model draft.document).steps limits
      (Markup.scan bytes).items).Unlimited := Attempt.Unlimited.of_andThen unlimited
  unfold read
  dsimp only
  rw [Reading.steps_raised raised steps]

end

namespace Compilation

def Outcome.Unlimited (outcome : Outcome) : Prop :=
  ∀ failure, outcome = .failed failure -> ¬ failure.IsLimit

theorem Outcome.not_unlimited_failed (exceeded : Limits.Exceeded) :
    ¬ (Outcome.failed (.limit exceeded)).Unlimited :=
  fun unlimited => unlimited _ rfl trivial

section

variable {options : Options} {more : Limits} {fetch : Fetch} {compilation : Compilation} {url : Url}
  {adopted : Option String} {fetched : Fetched}

theorem parse_raised (raised : options.limits.AtMost more)
    (unlimited : (compilation.parse options url adopted fetched).outcome.Unlimited) :
    compilation.parse (options.withLimits more) url adopted fetched =
      compilation.parse options url adopted fetched := by
  have read : (Draft.read options.limits
      ⟨compilation.model, .fresh fetched.canonical url adopted⟩ fetched.bytes).Unlimited := by
    intro failure stopped
    refine unlimited failure ?_
    unfold parse
    simp only [stopped]
  unfold parse
  dsimp only [Options.withLimits]
  rw [Draft.read_raised raised read]

theorem receive_raised (raised : options.limits.AtMost more)
    (unlimited : (compilation.receive options url adopted fetched).outcome.Unlimited) :
    compilation.receive (options.withLimits more) url adopted fetched =
      compilation.receive options url adopted fetched := by
  unfold receive at unlimited ⊢
  dsimp only at unlimited ⊢
  split
  next => rfl
  next unknown =>
    rw [unknown] at unlimited
    cases small : options.limits.check .documentSize fetched.bytes.length with
    | error exceeded =>
      rw [small] at unlimited
      exact absurd unlimited (Outcome.not_unlimited_failed exceeded)
    | ok =>
      rw [small] at unlimited
      have within : (options.withLimits more).limits.check .documentSize fetched.bytes.length =
          .ok () := raised.check small
      rw [within]
      exact parse_raised raised unlimited

theorem permits_raised (raised : options.limits.AtMost more)
    (unlimited : ∀ failure, compilation.permits options url = .error failure ->
      ¬ failure.IsLimit) :
    compilation.permits (options.withLimits more) url = compilation.permits options url := by
  have remote : (options.withLimits more).allowRemote = options.allowRemote := rfl
  unfold permits at unlimited ⊢
  rw [remote]
  split
  next => rfl
  next near =>
    rw [if_neg near] at unlimited
    cases few : options.limits.check .documents (compilation.documents.size + 1) with
    | error exceeded =>
      rw [few] at unlimited
      exact absurd trivial (unlimited _ rfl)
    | ok =>
      have within : (options.withLimits more).limits.check .documents
          (compilation.documents.size + 1) = .ok () := raised.check few
      rw [within]

theorem load_raised (raised : options.limits.AtMost more)
    (unlimited : (compilation.load options fetch url adopted).outcome.Unlimited) :
    compilation.load (options.withLimits more) fetch url adopted =
      compilation.load options fetch url adopted := by
  have adopts : (options.withLimits more).adoptNamespaces = options.adoptNamespaces := rfl
  unfold load at unlimited ⊢
  rw [adopts]
  dsimp only at unlimited ⊢
  split
  next => rfl
  next unknown =>
    rw [unknown] at unlimited
    have permitted : compilation.permits (options.withLimits more) url =
        compilation.permits options url := by
      refine permits_raised raised fun failure refused => ?_
      rw [refused] at unlimited
      exact unlimited failure rfl
    rw [permitted]
    split
    next => rfl
    next allowed =>
      rw [allowed] at unlimited
      split
      next => rfl
      next fetched found =>
        rw [found] at unlimited
        exact receive_raised raised unlimited

end

end Compilation

namespace Gathering

open Compilation

variable {options : Options} {more : Limits} {fetch : Fetch} {compilation : Compilation}
  {request : Request} {rest requests : List Request}

theorem failures_serve (options : Options) (fetch : Fetch) (compilation : Compilation)
    (request : Request) (rest : List Request) :
    (serve options fetch compilation request rest).compilation.failures.toList =
      compilation.failures.toList ++
        (Service.failure? ⟨request,
          (compilation.load options fetch request.url request.adopted).outcome⟩).toList := by
  have same := (receipt_load options fetch compilation request.url request.adopted).2
  unfold serve
  dsimp only
  split
  next failure failed =>
    rw [failed]
    simp [noteFailure, same, Service.failure?, Outcome.failure?]
  next id known =>
    rw [known]
    simp [depend, changeDocument, same, Service.failure?, Outcome.failure?]
  next id parsed =>
    rw [parsed]
    simp [depend, changeDocument, same, Service.failure?, Outcome.failure?]

theorem failures_run (options : Options) (fetch : Fetch) (compilation : Compilation)
    (requests : List Request) :
    compilation.failures.toList <+: (run options fetch compilation requests).failures.toList := by
  fun_induction run options fetch compilation requests with
  | case1 compilation => exact List.prefix_refl _
  | case2 compilation request rest next ih =>
    refine List.IsPrefix.trans ?_ ih
    rw [failures_serve]
    exact List.prefix_append ..

theorem serve_raised (raised : options.limits.AtMost more)
    (unlimited : (compilation.load options fetch request.url request.adopted).outcome.Unlimited) :
    serve (options.withLimits more) fetch compilation request rest =
      serve options fetch compilation request rest := by
  unfold serve
  rw [load_raised raised unlimited]

theorem run_raised (raised : options.limits.AtMost more)
    (unlimited : ∀ noted ∈ (run options fetch compilation requests).failures.toList,
      ¬ noted.failure.IsLimit) :
    run (options.withLimits more) fetch compilation requests =
      run options fetch compilation requests := by
  fun_induction run options fetch compilation requests with
  | case1 compilation => rw [run]
  | case2 compilation request rest next ih =>
    have served : (compilation.load options fetch request.url request.adopted).outcome.Unlimited := by
      intro failure failed
      refine unlimited ⟨request.url, failure⟩ ((failures_run ..).subset ?_)
      rw [failures_serve, failed]
      exact List.mem_append_right _ (by simp [Service.failure?, Outcome.failure?])
    rw [run, serve_raised raised served]
    exact ih unlimited

theorem start_raised (raised : options.limits.AtMost more) {url : Url}
    (unlimited : ∀ failure, start options fetch url = .error failure -> ¬ failure.IsLimit) :
    start (options.withLimits more) fetch url = start options fetch url := by
  have loaded : (Compilation.empty.load options fetch url none).outcome.Unlimited := by
    intro failure failed
    refine unlimited failure ?_
    unfold start
    simp only [failed]
  unfold start
  rw [load_raised raised loaded]

end Gathering

namespace Compilation

def Unlimited : Except Failure Compilation -> Prop
  | .error failure => ¬ failure.IsLimit
  | .ok compilation => ∀ noted ∈ compilation.failures, ¬ noted.failure.IsLimit

/-- A compilation that passed no limit comes to the same under higher ones. -/
theorem compile_raised {options : Options} {more : Limits} (raised : options.limits.AtMost more)
    (fetch : Fetch) (url : Url) (unlimited : Unlimited (compile options fetch url)) :
    compile (options.withLimits more) fetch url = compile options fetch url := by
  have started : Gathering.start (options.withLimits more) fetch url =
      Gathering.start options fetch url := by
    refine Gathering.start_raised raised fun failure failed => ?_
    rw [compile, failed] at unlimited
    exact unlimited
  unfold compile at unlimited ⊢
  rw [started]
  cases gathered : Gathering.start options fetch url with
  | error failure => rfl
  | ok gathering =>
    rw [gathered] at unlimited
    have same : Gathering.run (options.withLimits more) fetch gathering.compilation
          gathering.requests =
        Gathering.run options fetch gathering.compilation gathering.requests := by
      refine Gathering.run_raised raised fun noted member => unlimited noted ?_
      rw [failures_resolve]
      exact Array.mem_toList_iff.mp member
    exact congrArg (fun read => Except.ok read.resolve) same

def tight : Limits := ⟨2, 200, 2, 2⟩

set_option maxRecDepth 100000 in
theorem compile_raised_tight :
    ∃ compilation, compile (Options.standard.withLimits tight) servingAlone rootUrl =
        .ok compilation ∧ compilation.failures.size = 1 ∧
      compile .standard servingAlone rootUrl = .ok compilation := by
  obtain ⟨read, gathered, one, short⟩ := @gather_of_served (Options.standard.withLimits tight)
    servingAlone rootUrl (fun read => read.failures.size = 1 ∧
      read.failures.toList.all (fun noted => decide (¬ noted.failure.IsLimit)) = true) _ 1
    (by decide +kernel)
  have compiled : compile (Options.standard.withLimits tight) servingAlone rootUrl =
      .ok read.resolve := compile_of_gather gathered
  have unlimited : Unlimited (compile (Options.standard.withLimits tight) servingAlone rootUrl) := by
    rw [compiled]
    intro noted member
    rw [failures_resolve, ← Array.mem_toList_iff] at member
    exact of_decide_eq_true (List.all_eq_true.mp short noted member)
  have raised : tight.AtMost .standard := by
    intro measure
    cases measure <;> decide
  refine ⟨read.resolve, compiled, by rw [failures_resolve, one], ?_⟩
  rw [← compiled]
  exact @compile_raised (Options.standard.withLimits tight) .standard raised servingAlone rootUrl
    unlimited

end Compilation

end XmlSchema
