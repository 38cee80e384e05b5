import CodeReview.CommandLine.Environment
import CodeReview.Settings

/-!
# CodeReview.CommandLine.Arguments

The arguments of a call.

Design points:

* An option has a long name (`--title`) and may have a short one (`-i`). Its value is
  attached (`--title=T`, `-iF`, `-i=F`) or the next argument, which must not start with a
  hyphen unless it is one.
* A value given as an argument of its own is *pending* until the next option, and only
  then checked. So a later argument that means nothing is reported rather than a fault
  in that value.
* An option may be given once, except that `-v` counts.
* Input and output may come from the environment; a value on the command line
  hides them there.
-/

namespace CodeReview

/-! ### Results -/

/-- Why arguments do not lead to a run. -/
inductive Stop
  /-- An option has no value, or an empty one where a path is needed. -/
  | noValue
  /-- A value names no source mode. -/
  | unknownMode
  /-- An argument means nothing. -/
  | unknownArgument
  /-- An option is given twice. -/
  | repeated
  /-- A value is attached to an option that takes none. -/
  | surplusValue
  /-- Help is asked for. -/
  | help
  /-- The version is asked for. -/
  | version
deriving DecidableEq, Repr

/-- How much is logged. -/
inductive LogLevel
  | warn
  | info
  | debug
  | trace
deriving DecidableEq, Repr

/-- The directive that sets the level for the parts of this library. -/
def LogLevel.directive (level : LogLevel) : String :=
  "comment_digest=" ++
    match level with
    | warn => "warn"
    | info => "info"
    | debug => "debug"
    | trace => "trace"

/-- What the arguments of a call say. -/
structure Arguments where
  input : Option String := none
  output : Option String := none
  mode : Option SourceMode := none
  title : Option String := none
  /-- Inline suggestions are kept as they are. -/
  keepSuggestions : Bool := false
  verbosity : Nat := 0
deriving DecidableEq, Repr

/-! ### Options -/

/-- The options that take a value. -/
inductive ValueOption
  | input
  | output
  | source
  | title
deriving DecidableEq, Repr

/-- The options that take none. -/
inductive Switch
  | keepSuggestions
  | verbose
  | help
  | version
deriving DecidableEq, Repr

/-- The option with a long name. -/
def longOption? : String → Option (ValueOption ⊕ Switch)
  | "input" => some (.inl .input)
  | "output" => some (.inl .output)
  | "source" => some (.inl .source)
  | "title" => some (.inl .title)
  | "no-inline-rewrite" => some (.inr .keepSuggestions)
  | "verbose" => some (.inr .verbose)
  | "help" => some (.inr .help)
  | "version" => some (.inr .version)
  | _ => none

/-- The option with a short name. -/
def shortOption? : Char → Option (ValueOption ⊕ Switch)
  | 'i' => some (.inl .input)
  | 'o' => some (.inl .output)
  | 'v' => some (.inr .verbose)
  | 'h' => some (.inr .help)
  | 'V' => some (.inr .version)
  | _ => none

namespace Arguments

/-- The greatest verbosity that is counted. -/
def maxVerbosity : Nat := 255

/-- Gives an option its value. -/
def set (arguments : Arguments) (value : String) : ValueOption → Except Stop Arguments
  | .input =>
    if arguments.input.isSome then .error .repeated
    else .ok { arguments with input := some value }
  | .output =>
    if arguments.output.isSome then .error .repeated
    else if value = "" then .error .noValue
    else .ok { arguments with output := some value }
  | .source =>
    if arguments.mode.isSome then .error .repeated
    else
      match SourceMode.ofWord? value with
      | .ok mode => .ok { arguments with mode := some mode }
      | .error _ => .error .unknownMode
  | .title =>
    if arguments.title.isSome then .error .repeated
    else .ok { arguments with title := some value }

/-- Throws a switch. -/
def throw (arguments : Arguments) : Switch → Except Stop Arguments
  | .keepSuggestions =>
    if arguments.keepSuggestions then .error .repeated
    else .ok { arguments with keepSuggestions := true }
  | .verbose => .ok { arguments with verbosity := min (arguments.verbosity + 1) maxVerbosity }
  | .help => .error .help
  | .version => .error .version

/-! ### Reading -/

/-- Arguments while they are read. -/
structure Reading where
  arguments : Arguments := {}
  /-- The last option that takes a value, with its value if that has been seen. -/
  pending : Option (ValueOption × Option String) := none
  /-- The argument `--` has been seen, behind which there are no options. -/
  closed : Bool := false
deriving DecidableEq, Repr

namespace Reading

/-- Settles the pending option. -/
def settle (reading : Reading) : Except Stop Reading :=
  match reading.pending with
  | none => .ok reading
  | some (_, none) => .error .noValue
  | some (option, some value) => do
    return { reading with arguments := ← reading.arguments.set value option, pending := none }

/-- Takes an option with a value; the value may be attached or to come. -/
def takeOption (reading : Reading) (option : ValueOption) (attached : Option String) :
    Except Stop Reading := do
  let reading ← reading.settle
  match attached with
  | some value => return { reading with arguments := ← reading.arguments.set value option }
  | none => return { reading with pending := some (option, none) }

/-- Takes a switch. -/
def takeSwitch (reading : Reading) (switch : Switch) : Except Stop Reading := do
  let reading ← reading.settle
  return { reading with arguments := ← reading.arguments.throw switch }

/-- Takes an argument `--name` or `--name=value`, of which the hyphens are gone. -/
def takeLong (reading : Reading) (text : List Char) : Except Stop Reading :=
  let attached := match text.dropWhile (· ≠ '=') with
    | [] => none
    | _ :: value => some (String.ofList value)
  match longOption? (String.ofList (text.takeWhile (· ≠ '='))) with
  | some (.inl option) => reading.takeOption option attached
  | some (.inr switch) =>
    if attached.isSome then .error .surplusValue else reading.takeSwitch switch
  | none => .error .unknownArgument

/-- The value that is attached to a short name. -/
def attachedValue? : List Char → Option String
  | [] => none
  | '=' :: value => some (String.ofList value)
  | value => some (String.ofList value)

/-- Takes an argument of short names, of which the hyphen is gone. Several switches may stand
in one argument, the last name may be that of an option with a value. -/
def takeShort (reading : Reading) : List Char → Except Stop Reading
  | [] => .ok reading
  | c :: rest =>
    match shortOption? c with
    | some (.inl option) => reading.takeOption option (attachedValue? rest)
    | some (.inr switch) => do (← reading.takeSwitch switch).takeShort rest
    | none => .error .unknownArgument

/-- Takes an argument that names no option: a value, if one is to come. -/
def takeWord (reading : Reading) (text : String) : Except Stop Reading :=
  match reading.pending with
  | some (option, none) => .ok { reading with pending := some (option, some text) }
  | _ => .error .unknownArgument

/-- Takes an argument. -/
def take (reading : Reading) (argument : String) : Except Stop Reading :=
  if reading.closed then .error .unknownArgument
  else
    match argument.toList with
    | ['-', '-'] => .ok { reading with closed := true }
    | '-' :: '-' :: text => reading.takeLong text
    | ['-'] => reading.takeWord argument
    | '-' :: text => reading.takeShort text
    | _ => reading.takeWord argument

end Reading

/-- Reads the arguments of a call. -/
def ofList (arguments : List String) : Except Stop Arguments := do
  let reading ← arguments.foldlM Reading.take {}
  return (← reading.settle).arguments

/-! ### Meaning -/

/-- The variable that gives the input. -/
def inputVariable : String := "PR_DIGEST_INPUT"

/-- The variable that gives the output. -/
def outputVariable : String := "PR_DIGEST_OUTPUT"

/-- The arguments together with what the environment says about input and output. -/
def completed (arguments : Arguments) (environment : Environment) : Except Stop Arguments :=
  let input := arguments.input.or (environment.value? inputVariable)
  let output := arguments.output.or (environment.value? outputVariable)
  if output = some "" then .error .noValue else .ok { arguments with input, output }

/-- The name for the standard streams. -/
def standardStream : String := "-"

/-- Where the document is read from. -/
def source (arguments : Arguments) : String := arguments.input.getD standardStream

/-- How much is logged. -/
def level (arguments : Arguments) : LogLevel :=
  match arguments.verbosity with
  | 0 => .warn
  | 1 => .info
  | 2 => .debug
  | _ => .trace

/-- The settings with what the arguments say about them. -/
def apply (arguments : Arguments) (settings : Settings) : Settings where
  mode := arguments.mode.getD settings.mode
  title := (arguments.title.bind Settings.title?).getD settings.title
  rewriteSuggestions := settings.rewriteSuggestions && !arguments.keepSuggestions

end Arguments

end CodeReview
