import CodeReview.Proofs.CommandLine.Runs
import CodeReview.Proofs.CommandLine.Surroundings

/-!
# CodeReview.Proofs.CommandLine.Flags

A source mode that the arguments give, against the one in the environment. The given one is taken,
but the one in the environment is read first, and a word there that names no mode ends the run. As
long as the words name modes, it does not matter which.
-/

namespace CodeReview

open Settings (modeVariable)

/-! ### Settings -/

/-- The source mode that the environment asks for. -/
def Settings.modeOf (lookup : String → Option String) : Except Failure SourceMode :=
  match lookup modeVariable with
  | some word => SourceMode.ofWord? word
  | none => .ok .auto

/-- The environment names a source mode, or says nothing of it. -/
def Environment.NamesMode (environment : Environment) : Prop :=
  ∃ mode, Settings.modeOf environment.value? = .ok mode

theorem Settings.ofVariables_eq (lookup : String → Option String) :
    ofVariables lookup = (modeOf lookup).map fun mode => {
      mode
      title := ((lookup titleVariable).bind title?).getD ({} : Settings).title
      rewriteSuggestions :=
        ((lookup rewriteVariable).map isYes).getD ({} : Settings).rewriteSuggestions } := by
  simp only [ofVariables, modeOf, bind, Except.bind, pure, Except.pure]
  cases lookup modeVariable with
  | none => rfl
  | some word =>
    dsimp only
    cases SourceMode.ofWord? word with
    | error failure => rfl
    | ok mode => rfl

theorem Settings.ofVariables_of_not_namesMode {environment : Environment}
    (h : ¬ environment.NamesMode) : ∃ failure, ofVariables environment.value? = .error failure := by
  rw [ofVariables_eq]
  cases hmode : modeOf environment.value? with
  | error failure => exact ⟨failure, rfl⟩
  | ok mode => exact absurd ⟨mode, hmode⟩ h

namespace Arguments

theorem completed_congr {first second : Environment}
    (hinput : first.value? inputVariable = second.value? inputVariable)
    (houtput : first.value? outputVariable = second.value? outputVariable)
    (arguments : Arguments) : arguments.completed first = arguments.completed second := by
  rw [completed, completed, hinput, houtput]

/-- A mode that is given takes the place of the one in the settings. -/
theorem apply_mk {arguments : Arguments} {mode : SourceMode} (h : arguments.mode = some mode)
    (other : SourceMode) (title : String) (rewriteSuggestions : Bool) :
    arguments.apply ⟨other, title, rewriteSuggestions⟩ =
      arguments.apply ⟨mode, title, rewriteSuggestions⟩ := by
  rw [apply, apply, h]
  rfl

end Arguments

/-! ### Jobs -/

namespace Job

/-- With a mode among the arguments, environments that are the same but for theirs lead to the
same job. -/
theorem ofCall_congr {list : List String} {arguments : Arguments} {mode : SourceMode}
    (haccepted : Arguments.ofList list = .ok arguments) (hgiven : arguments.mode = some mode)
    {first second : Environment} (hfirst : first.NamesMode) (hsecond : second.NamesMode)
    (hsame : first.without modeVariable = second.without modeVariable) :
    ofCall list first = ofCall list second := by
  obtain ⟨firstMode, hfirst⟩ := hfirst
  obtain ⟨secondMode, hsecond⟩ := hsecond
  have hvalue : ∀ name, name ≠ modeVariable → first.value? name = second.value? name :=
    fun name hname => Environment.value?_eq_of_without_eq hsame hname
  rw [ofCall_eq haccepted, ofCall_eq haccepted,
    Arguments.completed_congr (hvalue _ (by decide)) (hvalue _ (by decide)),
    Settings.ofVariables_eq, Settings.ofVariables_eq, hfirst, hsecond,
    hvalue Settings.titleVariable (by decide), hvalue Settings.rewriteVariable (by decide)]
  cases hcompleted : arguments.completed second with
  | error stop => rfl
  | ok completed =>
    have hmode : completed.mode = some mode := by
      rw [Arguments.completed_eq_ok hcompleted]
      exact hgiven
    simp only [Except.map, ofParts]
    rw [Arguments.apply_mk hmode firstMode, Arguments.apply_mk hmode secondMode]

theorem ofCall_of_not_namesMode {list : List String} {arguments : Arguments}
    {environment : Environment} (haccepted : Arguments.ofList list = .ok arguments)
    (h : ¬ environment.NamesMode) : ∀ job, ofCall list environment ≠ .ok job := by
  intro job hjob
  obtain ⟨failure, hfailure⟩ := Settings.ofVariables_of_not_namesMode h
  rw [ofCall_eq haccepted, hfailure] at hjob
  split at hjob
  · cases hjob
  · cases hjob

end Job

/-! ### Runs -/

namespace Call

/-- What a run does depends on the environment by the job only. -/
theorem run_congr {call : Call} {environment : Environment}
    (h : Job.ofCall call.arguments ({ call with environment } : Call).surroundings =
      Job.ofCall call.arguments call.surroundings) :
    ({ call with environment } : Call).run = call.run := by
  unfold run
  dsimp only
  rw [h]
  rfl

/-- **A given source mode against the environment.** Take calls whose arguments give a source mode,
which differ in nothing but the variable of the source mode, where the file of variables does not
hand its value on. If what is in effect in both names a mode, or is nothing, the two runs
are the same. But a word in effect that names none makes a run fail, and then it leaves everything
as it was. -/
theorem run_eq_of_mode_given {call : Call} {environment : Environment} {arguments : Arguments}
    {mode : SourceMode} (haccepted : Arguments.ofList call.arguments = .ok arguments)
    (hgiven : arguments.mode = some mode)
    (hsame : environment.without modeVariable = call.environment.without modeVariable)
    (hfile : call.fileRefersTo modeVariable = false) :
    (call.surroundings.NamesMode → ({ call with environment } : Call).surroundings.NamesMode →
        ({ call with environment } : Call).run = call.run) ∧
      (¬ call.surroundings.NamesMode → call.run.exit ≠ .success ∧ call.Untouched call.run) := by
  constructor
  · intro hcall hother
    have hsurroundings := without_surroundings (by decide) hfile hsame
    exact run_congr (Job.ofCall_congr haccepted hgiven hother hcall hsurroundings)
  · intro h
    refine untouched_of_not_answers haccepted ?_
    rintro ⟨job, document, digest, hanswers⟩
    exact Job.ofCall_of_not_namesMode haccepted h job hanswers.job_eq

/-- A call that gives a mode to a payload without comments, where the environment asks for another
one, and so does the file. -/
def overruledCall : Call where
  arguments := ["--source=json", "-o", "report.md"]
  environment := [("PR_DIGEST_SOURCE", "markup"), ("PR_DIGEST_TITLE", "Notes")]
  input := "\x7b\"threads\": \x7b\x7d, \"diffSummaries\": []\x7d"
  folder := .ofList [(".env", "PR_DIGEST_SOURCE=Legacy\nPR_DIGEST_INLINE_REWRITE=$HOME\n")]

/-- It runs as it does without its variable of the mode. -/
theorem run_eq_of_mode_given_overruledCall :
    overruledCall.surroundings.NamesMode ∧
      ({ overruledCall with environment := [("PR_DIGEST_TITLE", "Notes")] } : Call).run =
        overruledCall.run := by
  have hcall : overruledCall.surroundings.NamesMode := ⟨.markup, by decide +kernel⟩
  have hother : ({ overruledCall with environment := [("PR_DIGEST_TITLE", "Notes")] } :
      Call).surroundings.NamesMode := ⟨.markup, by decide +kernel⟩
  have haccepted : Arguments.ofList overruledCall.arguments =
      .ok { output := some "report.md", mode := some .structured } := by
    decide +kernel
  refine ⟨hcall, ?_⟩
  exact (run_eq_of_mode_given haccepted rfl (by decide) (by decide +kernel)).1 hcall hother

/-- A call that gives a mode, where the environment names none. -/
def misnamedCall : Call where
  arguments := ["--source", "json"]
  environment := [("PR_DIGEST_SOURCE", "bad")]
  input := "\x7b\"threads\": \x7b\x7d, \"diffSummaries\": []\x7d"
  folder := .ofList []

/-- It fails, and succeeds without the variable. -/
theorem not_run_eq_misnamedCall :
    Arguments.ofList misnamedCall.arguments = .ok { mode := some .structured } ∧
      Environment.without [] modeVariable = misnamedCall.environment.without modeVariable ∧
      misnamedCall.run.exit = .failure ∧
      ({ misnamedCall with environment := [] } : Call).run.exit = .success := by
  refine ⟨by decide +kernel, by decide, by decide +kernel, by decide +kernel⟩

end Call

end CodeReview
