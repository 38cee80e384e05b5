import CodeReview.Failure
import CodeReview.Payload.Location
import CodeReview.Warning

/-!
# CodeReview.Payload.Decode

From JSON values to payloads.

Design points:

* A record is written as an object, of which unknown keys do not matter, or as an
  array of its fields in a fixed order, of which the last ones may be missing
  (`record?`).
* A field that may be absent may be null as well (`optional?`).
* The outermost shape has to be right: an object with an object `threads` and an array
  `diffSummaries`, perhaps under the key `payload`. Everything below it is read as
  far as it goes. A record with any malformed part is left out whole, with one
  warning (`Reading`).
-/

namespace CodeReview.Decode

open Json Text

/-! ### Records -/

/-- The fields of a record, given the names of all its fields in order. -/
def record? (names : List String) : Value → Option Fields
  | .object fields => some fields
  | .array items => if items.length ≤ names.length then some (names.zip items) else none
  | _ => none

/-- Reads a field that may be absent or null. -/
def optional? {α : Type} (read : Value → Option α) (name : String) (fields : Fields) :
    Option (Option α) :=
  match Fields.get? fields name with
  | none => some none
  | some .null => some none
  | some value => (read value).map some

/-- Reads the items of an array, all of them or none. -/
def list? {α : Type} (read : Value → Option α) : Value → Option (List α)
  | .array items => items.mapM read
  | _ => none

/-! ### Scalars -/

/-- Reads a string. -/
def string? : Value → Option String
  | .string text => some text
  | _ => none

/-- Reads a truth value. -/
def bool? : Value → Option Bool
  | .bool value => some value
  | _ => none

/-- Reads a line number: an integer literal that fits one. -/
def line? : Value → Option LineNumber
  | .number (.integer (.ofNat n)) => if n < UInt32.size then some (UInt32.ofNat n) else none
  | _ => none

/-- Reads the id of a thread: a string, or a number, which stands for its text. -/
def threadId? : Value → Option ThreadId
  | .string text => some text
  | .number number => some number.text
  | _ => none

/-! ### Threads -/

/-- Reads the name of an author. -/
def author? (value : Value) : Option (Option String) := do
  let fields ← record? ["login"] value
  optional? string? "login" fields

/-- Reads a message. -/
def message? (value : Value) : Option Message := do
  let fields ← record? ["author", "body", "bodyHTML", "createdAt"] value
  let author ← optional? author? "author" fields
  let body ← optional? string? "body" fields
  let formatted ← optional? string? "bodyHTML" fields
  let createdAt ← optional? string? "createdAt" fields
  return { author := author.join, body, formatted, createdAt }

/-- Reads the messages of a thread. -/
def messages? (value : Value) : Option (List Message) := do
  let fields ← record? ["comments"] value
  let messages ← optional? (list? message?) "comments" fields
  return messages.getD []

/-- Reads a truth value that is false when absent, but not null. -/
def flag? (name : String) (fields : Fields) : Option Bool :=
  match Fields.get? fields name with
  | none => some false
  | some value => bool? value

/-- Reads the thread under a key. -/
def thread? (key : String) (value : Value) : Option Thread := do
  let fields ← record? ["id", "isResolved", "commentsData"] value
  let ownId ← optional? threadId? "id" fields
  let resolved ← flag? "isResolved" fields
  let messages ← optional? messages? "commentsData" fields
  return { key, ownId, resolved, messages := messages.getD [] }

/-! ### References -/

/-- The range that a list of line numbers describes: its first two, or its only one. -/
def contextOf : List LineNumber → Option LineRange
  | [] => none
  | [line] => some (.single line)
  | first :: last :: _ => some ⟨first, last⟩

/-- Reads a reference at a marker. -/
def markerReference? (value : Value) : Option MarkerReference := do
  let fields ← record? ["id", "startLine", "endLine", "start"] value
  let thread ← (Fields.get? fields "id").bind threadId?
  let startLine ← optional? line? "startLine" fields
  let endLine ← optional? line? "endLine" fields
  let startMarker ← optional? string? "start" fields
  return { thread, startLine, endLine, startMarker }

/-- Reads the entry of a marker. -/
def marker? (marker : String) (value : Value) : Option MarkerEntry := do
  let fields ← record? ["ctx", "threads"] value
  let context ← optional? (list? line?) "ctx" fields
  let references ← optional? (list? markerReference?) "threads" fields
  return { marker, context := contextOf (context.getD []), references := references.getD [] }

/-- Reads a reference at a diff line. -/
def lineReference? (value : Value) : Option LineReference := do
  let fields ← record? ["id", "startLine", "line", "endLine"] value
  let thread ← (Fields.get? fields "id").bind threadId?
  let startLine ← optional? line? "startLine" fields
  let line ← optional? line? "line" fields
  let endLine ← optional? line? "endLine" fields
  return { thread, startLine, line, endLine }

/-- Reads a diff line. -/
def diffLine? (value : Value) : Option DiffLine := do
  let fields ← record? ["newLineNumber", "oldLineNumber", "threads"] value
  let newLine ← optional? line? "newLineNumber" fields
  let oldLine ← optional? line? "oldLineNumber" fields
  let references ← optional? (list? lineReference?) "threads" fields
  return { newLine, oldLine, references := references.getD [] }

/-! ### Reading past faults -/

/-- What has been read of a list of parts, and the warnings for those left out. -/
structure Reading (α : Type) where
  kept : List α
  warnings : List Warning
deriving Repr

namespace Reading

variable {α β : Type}

/-- Nothing was there. -/
def nothing : Reading α := ⟨[], []⟩

/-- One part was read. -/
def keep (part : α) (warnings : List Warning) : Reading α := ⟨[part], warnings⟩

/-- One part was left out. -/
def skip (warning : Warning) : Reading α := ⟨[], [warning]⟩

/-- Reads parts one after another. -/
def each (read : β → Reading α) (parts : List β) : Reading α :=
  ⟨parts.flatMap fun part => (read part).kept, parts.flatMap fun part => (read part).warnings⟩

/-- A record that is kept or left out. -/
def ofRecord (kind : RecordKind) (key : String) : Option α → Reading α
  | some record => keep record []
  | none => skip (.malformed kind key)

end Reading

/-- Reads the threads of a payload. -/
def threads (fields : Fields) : Reading Thread :=
  .each (fun (key, value) => .ofRecord .thread key (thread? key value)) fields

/-- Reads the markers of a file; what is no object holds none. -/
def markers : Option Value → Reading MarkerEntry
  | some (.object fields) =>
    .each (fun (marker, value) => .ofRecord .marker marker (marker? marker value)) fields
  | _ => .nothing

/-- Reads the diff lines of a file; what is no array holds none. -/
def diffLines : Option Value → Reading DiffLine
  | some (.array items) =>
    .each (fun (value, index) => .ofRecord .diffLine (Nat.repr index) (diffLine? value))
      items.zipIdx
  | _ => .nothing

/-- The path that a file summary names. -/
def path? (fields : Fields) : Option String :=
  ((Fields.get? fields "path").bind string?).filter (· ≠ "")

/-- Reads a file summary. -/
def file : Value → Reading FileDiff
  | .object fields =>
    match path? fields with
    | some path =>
      let markers := markers (Fields.get? fields "markersMap")
      let lines := diffLines (Fields.get? fields "diffLines")
      .keep ⟨path, markers.kept, lines.kept⟩ (markers.warnings ++ lines.warnings)
    | none => .skip .summaryWithoutPath
  | _ => .skip .summaryNotObject

/-- A payload as far as it could be read. -/
structure Decoded where
  payload : Payload
  warnings : List Warning
deriving Repr

/-- Reads the threads and files of a payload. -/
def contents (threadFields : Fields) (summaries : List Value) : Decoded :=
  let threads := threads threadFields
  let files := Reading.each file summaries
  ⟨⟨threads.kept, files.kept⟩, threads.warnings ++ files.warnings⟩

/-! ### The outermost shape -/

/-- The object that holds threads and file summaries: under the key `payload`, or the
root itself. -/
def body? : Value → Except PayloadFailure Fields
  | .object root =>
    match Fields.get? root "payload" with
    | some (.object inner) => .ok inner
    | some _ => .error (.invalidField "payload" "an object")
    | none =>
      if Fields.has root "threads" || Fields.has root "diffSummaries" then .ok root
      else .error .missingPayload
  | _ => .error .missingPayload

/-- Reads a payload. -/
def payload? (root : Value) : Except PayloadFailure Decoded := do
  let body ← body? root
  let threadFields ← match Fields.get? body "threads" with
    | some (.object fields) => .ok fields
    | some _ => .error (.invalidField "threads" "an object")
    | none => .error (.missingField "threads")
  let summaries ← match Fields.get? body "diffSummaries" with
    | some (.array items) => .ok items
    | some _ => .error (.invalidField "diffSummaries" "an array")
    | none => .error (.missingField "diffSummaries")
  return contents threadFields summaries

/-- Reads a payload from JSON text. -/
def text? (text : String) : Except PayloadFailure Decoded :=
  match Json.read text with
  | .ok root => payload? root
  | .error fault => .error (.json fault)

end CodeReview.Decode
