import CodeReview.CommandLine.Arguments
import CodeReview.CommandLine.Folder
import CodeReview.CommandLine.VariableFile
import CodeReview.Digest

/-!
# CodeReview.CommandLine.Run

A run of the program: from its arguments and surroundings to what it prints and writes.

A run has two parts that touch nothing outside themselves: what to do (`Job.ofCall`) and
what to say about a document (`Job.answer`). Reading, printing and writing stand between
and after them, so the same parts make up a run in a folder of the library (`run`) and
one in the world.

A run that fails has printed and written nothing.
-/

namespace CodeReview

/-! ### What to do -/

/-- What a call asks for. -/
structure Job where
  /-- Where the document is read from. -/
  source : String
  /-- Where the report goes, if not to the standard output. -/
  target : Option String
  settings : Settings
  level : LogLevel
deriving DecidableEq, Repr

/-- Why a call does not lead to a job. -/
inductive Refusal
  /-- Its arguments do not. -/
  | arguments (stop : Stop)
  /-- The settings in the environment are at fault. -/
  | settings (failure : Failure)
deriving DecidableEq, Repr

/-- The path names the standard output: it is a hyphen, but for what means nothing
behind a name on a path. -/
def isStandardOutput (path : String) : Bool :=
  match Folder.names path with
  | name :: rest => name == Arguments.standardStream && rest.all Folder.isHere
  | [] => false

namespace Job

/-- The job of a call. Settings in the environment have to be right also where the
arguments hide them. -/
def ofCall (arguments : List String) (environment : Environment) : Except Refusal Job := do
  let arguments ← (Arguments.ofList arguments).mapError .arguments
  let arguments ← (arguments.completed environment).mapError .arguments
  let settings ← (Settings.ofVariables environment.value?).mapError .settings
  return {
    source := arguments.source
    target := arguments.output.filter (!isStandardOutput ·)
    settings := arguments.apply settings
    level := arguments.level }

/-- The document is read from the standard input, and not where a path leads. -/
def readsStandardInput (job : Job) : Bool := job.source == Arguments.standardStream

end Job

/-- The file that provides environment variables. -/
def variableFileName : String := ".env"

/-- The variables that a call looks at by itself. -/
def variableNames : List String :=
  [Arguments.inputVariable, Arguments.outputVariable, Settings.modeVariable,
    Settings.titleVariable, Settings.rewriteVariable]

/-! ### What to say -/

/-- What is said about a document. -/
inductive Answer
  /-- There are no comments. -/
  | nothing
  /-- The text of the report, and the number of its sections. -/
  | report (text : String) (sections : Nat)
deriving DecidableEq, Repr

/-- What the user is told besides the report. -/
def Answer.notice : Answer → List String
  | nothing =>
    ["No unresolved review comments found on this PR.", "",
      "Note: only unresolved comments are extracted."]
  | report _ sections => [Report.summary sections]

/-- What is said about a document. -/
def Job.answer (job : Job) (document : String) : Except Failure Answer := do
  let digest ← Digest.ofDocument document job.settings.mode
  return if digest.report.isEmpty then .nothing
    else .report (digest.render job.settings) digest.report.sectionCount

/-- What is printed on request. -/
def Stop.output : Stop → String
  | version => "pr-review-digest 0.1.0\n"
  | help => "\n".intercalate
    ["Collect unresolved pull request review comments into a Markdown digest",
      "",
      "Usage: pr-review-digest [OPTIONS]",
      "",
      "Options:",
      "  -i, --input <INPUT>      Saved review page or its JSON payload; - reads stdin",
      "  -o, --output <OUTPUT>    Write the report to this file instead of stdout",
      "      --source <SOURCE>    Extraction path: auto, structured or markup",
      "      --title <TITLE>      Title placed on the first line of the report",
      "      --no-inline-rewrite  Keep inline suggestion fences verbatim",
      "  -v, --verbose...         Engine log verbosity (-v info, -vv debug, -vvv trace)",
      "  -h, --help               Print help",
      "  -V, --version            Print version",
      ""]
  | _ => ""

/-- What the user is told about arguments that mean nothing. -/
def Stop.complaint : Stop → String
  | noValue => "error: an option has no value"
  | unknownMode => "error: the value of --source names no source mode"
  | unknownArgument => "error: unexpected argument"
  | repeated => "error: an option is given twice"
  | surplusValue => "error: an option takes no value"
  | help | version => ""

/-! ### Runs -/

/-- How a run ends. -/
inductive Exit
  | success
  | failure
  /-- The arguments mean nothing. -/
  | usage
deriving DecidableEq, Repr

/-- The number by which an end is told. -/
def Exit.code : Exit → UInt8
  | success => 0
  | failure => 1
  | usage => 2

/-- How a run ends that its arguments stop. -/
def Stop.exit : Stop → Exit
  | help | version => .success
  | _ => .usage

/-- A call of the program with its surroundings. -/
structure Call where
  arguments : List String
  environment : Environment
  /-- The standard input. -/
  input : String
  folder : Folder

/-- What a run leaves behind. -/
structure Outcome where
  exit : Exit
  /-- The standard output. -/
  output : String := ""
  /-- What the user is told besides. -/
  notice : List String := []
  folder : Folder

namespace Call

/-- The variables of a run: those that are set, and those that the nearest file for them
provides. -/
def surroundings (call : Call) : Environment :=
  match call.folder.readNearest? variableFileName with
  | some text => VariableFile.provideAll call.environment text
  | none => call.environment

/-- The document of a job. -/
def document? (call : Call) (job : Job) : Option String :=
  if job.readsStandardInput then some call.input else call.folder.read? job.source call.input

/-- A run that fails. -/
def failed (call : Call) : Outcome := { exit := .failure, folder := call.folder }

/-- Gives an answer to where a job wants it. -/
def deliver (call : Call) (job : Job) (answer : Answer) : Outcome :=
  match answer, job.target with
  | .nothing, _ => { exit := .success, notice := answer.notice, folder := call.folder }
  | .report text _, none =>
    { exit := .success, output := text, notice := answer.notice, folder := call.folder }
  | .report text _, some path =>
    match call.folder.write? path text with
    | some folder =>
      { exit := .success, output := call.folder.printed path text, notice := answer.notice, folder }
    | none => call.failed

/-- A run of the program. -/
def run (call : Call) : Outcome :=
  match Job.ofCall call.arguments call.surroundings with
  | .error (.arguments stop) =>
    { exit := stop.exit, output := stop.output, folder := call.folder }
  | .error (.settings _) => call.failed
  | .ok job =>
    match call.document? job with
    | none => call.failed
    | some document =>
      match job.answer document with
      | .error _ => call.failed
      | .ok answer => call.deliver job answer

end Call

end CodeReview
