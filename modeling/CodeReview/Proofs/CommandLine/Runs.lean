import CodeReview.CommandLine.Run

/-!
# CodeReview.Proofs.CommandLine.Runs

All that a run can do. It asks one thing after another: what the arguments say together with the
environment, which settings the environment wants, what the document is, which report is made of
it. A run that gets all of these (`Call.Answers`) delivers the report; any other fails, and leaves
everything as it was (`Call.run_cases`).
-/

namespace CodeReview

/-! ### Jobs -/

namespace Arguments

/-- Only an output that is empty is at fault. -/
theorem completed_eq_error {arguments : Arguments} {environment : Environment} {stop : Stop}
    (h : arguments.completed environment = .error stop) : stop = .noValue := by
  simp only [completed] at h
  split at h
  · exact (Except.error.inj h).symm
  · cases h

theorem completed_eq_ok {arguments completed : Arguments} {environment : Environment}
    (h : arguments.completed environment = .ok completed) :
    completed =
      { arguments with
        input := arguments.input.or (environment.value? inputVariable)
        output := arguments.output.or (environment.value? outputVariable) } := by
  simp only [Arguments.completed] at h
  split at h
  · cases h
  · exact (Except.ok.inj h).symm

end Arguments

namespace Job

/-- What arguments and settings together ask for. -/
def ofParts (arguments : Arguments) (settings : Settings) : Job where
  source := arguments.source
  target := arguments.output.filter (!isStandardOutput ·)
  settings := arguments.apply settings
  level := arguments.level

theorem ofCall_eq {list : List String} {arguments : Arguments}
    (h : Arguments.ofList list = .ok arguments) (environment : Environment) :
    ofCall list environment =
      match arguments.completed environment with
      | .error stop => .error (.arguments stop)
      | .ok completed =>
        match Settings.ofVariables environment.value? with
        | .error failure => .error (.settings failure)
        | .ok settings => .ok (ofParts completed settings) := by
  rw [ofCall, h]
  change ((arguments.completed environment).mapError Refusal.arguments >>= fun completed =>
    (Settings.ofVariables environment.value?).mapError Refusal.settings >>= fun settings =>
      Except.ok (ofParts completed settings)) = _
  cases arguments.completed environment with
  | error stop => rfl
  | ok completed =>
    cases Settings.ofVariables environment.value? with
    | error failure => rfl
    | ok settings => rfl

/-- Where the arguments mean something, only the environment can leave an option without a
value. -/
theorem stop_of_ofCall {list : List String} {arguments : Arguments} {environment : Environment}
    {stop : Stop} (h : Arguments.ofList list = .ok arguments)
    (hstop : ofCall list environment = .error (.arguments stop)) : stop = .noValue := by
  rw [ofCall_eq h] at hstop
  cases hcompleted : arguments.completed environment with
  | error _ =>
    rw [hcompleted] at hstop
    obtain rfl := Refusal.arguments.inj (Except.error.inj hstop)
    exact Arguments.completed_eq_error hcompleted
  | ok _ =>
    rw [hcompleted] at hstop
    dsimp only at hstop
    split at hstop
    · cases hstop
    · cases hstop

end Job

/-! ### Answers -/

/-- What is said about a document when a report was made of it. -/
def Job.answerOf (job : Job) (digest : Digest) : Answer :=
  if digest.report.isEmpty then .nothing
  else .report (digest.render job.settings) digest.report.sectionCount

theorem Job.answer_eq (job : Job) (document : String) :
    job.answer document =
      (Digest.ofDocument document job.settings.mode).map job.answerOf := by
  rw [answer]
  cases Digest.ofDocument document job.settings.mode with
  | error failure => rfl
  | ok digest => rfl

namespace Call

/-- A run gets as far as a report. -/
structure Answers (call : Call) (job : Job) (document : String) (digest : Digest) : Prop where
  job_eq : Job.ofCall call.arguments call.surroundings = .ok job
  document_eq : call.document? job = some document
  digest_eq : Digest.ofDocument document job.settings.mode = .ok digest

/-- An outcome leaves everything as it was: nothing is printed, and all files are the same. -/
structure Untouched (call : Call) (outcome : Outcome) : Prop where
  output_eq : outcome.output = ""
  folder_eq : outcome.folder = call.folder

theorem untouched_failed (call : Call) : call.Untouched call.failed := ⟨rfl, rfl⟩

theorem untouched_of_not_answers {call : Call} {arguments : Arguments}
    (haccepted : Arguments.ofList call.arguments = .ok arguments)
    (h : ¬ ∃ job document digest, call.Answers job document digest) :
    call.run.exit ≠ .success ∧ call.Untouched call.run := by
  have hfailed : call.run = call.failed → call.run.exit ≠ .success ∧ call.Untouched call.run := by
    intro hrun
    rw [hrun]
    exact ⟨nofun, call.untouched_failed⟩
  cases hjob : Job.ofCall call.arguments call.surroundings with
  | error refusal =>
    cases refusal with
    | settings failure => exact hfailed (by simp only [run, hjob])
    | arguments stop =>
      have hrun : call.run =
          { exit := stop.exit, output := stop.output, folder := call.folder } := by
        simp only [run, hjob]
      obtain rfl := Job.stop_of_ofCall haccepted hjob
      rw [hrun]
      exact ⟨nofun, rfl, rfl⟩
  | ok job =>
    cases hdocument : call.document? job with
    | none => exact hfailed (by simp only [run, hjob, hdocument])
    | some document =>
      cases hdigest : Digest.ofDocument document job.settings.mode with
      | error failure =>
        exact hfailed (by simp only [run, hjob, hdocument, Job.answer_eq, hdigest, Except.map])
      | ok digest => exact absurd ⟨job, document, digest, hjob, hdocument, hdigest⟩ h

end Call

end CodeReview
