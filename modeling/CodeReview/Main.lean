import CodeReview.CommandLine.Run

/-!
# CodeReview.Main

The program in the world: arguments, variables, streams and files.
-/

namespace CodeReview.Main

/-- An action that may fail. -/
def attempt {α : Type} (action : IO α) : IO (Option α) :=
  try
    return some (← action)
  catch _ =>
    return none

/-- The file that provides variables: that of the nearest folder upwards that has one. If that
one may not be read, there is none. -/
def variableFile : IO String := do
  let depth := ((← IO.currentDir).toString.splitOn "/").length
  for up in List.range depth do
    let path := String.join (List.replicate up "../") ++ variableFileName
    try
      return ← IO.FS.readFile path
    catch
      | .permissionDenied .. => return ""
      | _ => pure ()
  return ""

/-- The variables among the given names that are set. -/
def variablesOf (names : List String) : IO Environment :=
  names.filterMapM fun name => do
    return (← IO.getEnv name).map (name, ·)

/-- Tells the user something. -/
def tell (lines : List String) : IO Unit := do
  for line in lines do
    IO.eprintln line

/-- The end of the program. -/
def finish (exit : Exit) : UInt32 := exit.code.toUInt32

/-- A run that fails. -/
def fail (message : String) : IO UInt32 := do
  tell ["Error: " ++ message]
  return finish .failure

/-- Does a job. -/
def work (job : Job) : IO UInt32 := do
  let reading := if job.readsStandardInput then do (← IO.getStdin).readToEnd
    else IO.FS.readFile job.source
  let some document ← attempt reading | fail "the input cannot be read"
  match job.answer document with
  | .error failure => fail failure.message
  | .ok answer =>
    let writing := match answer, job.target with
      | .nothing, _ => return
      | .report text _, none => do
        let output ← IO.getStdout
        output.putStr text
        output.flush
      | .report text _, some path => IO.FS.writeFile path text
    let some _ ← attempt writing | fail "the report cannot be written"
    tell answer.notice
    return finish .success

end CodeReview.Main

open CodeReview CodeReview.Main in
/-- Reads a review and writes the report on it. -/
def main (arguments : List String) : IO UInt32 := do
  let file ← variableFile
  let environment ← variablesOf (variableNames ++ VariableFile.names file)
  match Job.ofCall arguments (VariableFile.provideAll environment file) with
  | .error (.arguments stop) =>
    IO.print stop.output
    if stop.exit = .usage then
      tell [stop.complaint]
    return finish stop.exit
  | .error (.settings failure) => fail failure.message
  | .ok job => work job
