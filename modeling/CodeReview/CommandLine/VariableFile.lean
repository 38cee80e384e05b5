import CodeReview.CommandLine.Environment
import CodeReview.Text.Alphanumeric
import CodeReview.Text.Blank
import CodeReview.Text.ByteOrderMark
import CodeReview.Text.Lines

/-!
# CodeReview.CommandLine.VariableFile

Files that provide environment variables: one assignment `NAME=value` to an entry.

Design points:

* Reading comes in three steps: lines to entries (an open quote holds lines
  together), entries to assignments, assignments to variables.
* A value may refer to variables. It is kept as a list of pieces (`Piece`), so that
  reading a file does not depend on the variables that are set.
* The first entry that is no assignment ends the file: those before it count.
* A file never changes a variable that is set.
-/

namespace CodeReview.VariableFile

open Text

/-! ### Entries -/

/-- Where in an entry its lines are cut. -/
inductive Quoting
  | plain
  /-- Behind a blank outside quotes, where a comment may start. -/
  | gap
  | escape
  | double
  | doubleEscape
  | single
  | singleEscape
deriving DecidableEq, Repr

/-- What a character outside quotes leads to. -/
def Quoting.open : Char → Quoting
  | '\\' => .escape
  | '"' => .double
  | '\'' => .single
  | _ => .plain

/-- What a character leads to. -/
def Quoting.step (quoting : Quoting) (c : Char) : Quoting :=
  match quoting with
  | gap => Quoting.open c
  | plain => if isBlank c && c != '\n' && c != '\r' then gap else Quoting.open c
  | escape => plain
  | double => if c = '\\' then doubleEscape else if c = '"' then plain else double
  | doubleEscape => double
  | single => if c = '\\' then singleEscape else if c = '\'' then plain else single
  | singleEscape => single

/-- Reads a line: its characters up to a comment, and the state at its end, unless it
ends in a comment. -/
def readLine (quoting : Quoting) : List Char → List Char × Option Quoting
  | [] => ([], some quoting)
  | c :: line =>
    if quoting = .gap ∧ c = '#' then ([], none)
    else
      let (kept, last) := readLine (quoting.step c) line
      (c :: kept, last)

/-- The text without the end of its last line. -/
def dropTerminator (text : List Char) : List Char :=
  text.take (text.length - (terminator text).length)

/-- The entries on some lines, given the lines before them that the first entry starts
with. Lines without an end of the entry are lost. -/
def entriesFrom (held : List Char) (quoting : Quoting) : List (List Char) → List (List Char)
  | [] => []
  | line :: lines =>
    if (trimStart (held ++ line)).head? = some '#' then [] :: entriesFrom [] .plain lines
    else
      match readLine quoting line with
      | (kept, none) => (held ++ kept) :: entriesFrom [] .plain lines
      | (_, some .plain) => dropTerminator (held ++ line) :: entriesFrom [] .plain lines
      | (_, some quoting) => entriesFrom (held ++ line) quoting lines

/-- The entries of a text. -/
def entries (text : List Char) : List (List Char) := entriesFrom [] .plain (lines text)

/-! ### Values -/

/-- A piece of a value. -/
inductive Piece
  | char (c : Char)
  /-- The value of a variable. -/
  | reference (name : String)
deriving DecidableEq, Repr

/-- Where in a value its characters are read. `quoted` tells that double quotes are
open. -/
inductive Reading
  | plain
  | double
  | single
  | escape (quoted : Bool)
  /-- In a reference `$name`, letters last first. -/
  | name (quoted : Bool) (letters : List Char)
  /-- In a reference in braces. -/
  | braces (quoted : Bool) (letters : List Char)
  /-- Behind the value, where only blanks and a comment may stand. -/
  | done
  /-- In a comment. -/
  | comment
deriving DecidableEq, Repr

namespace Reading

/-- Outside and inside of double quotes. -/
def inside (quoted : Bool) : Reading := if quoted then .double else .plain

/-- The character that an escaped character stands for. -/
def escaped? : Char → Option Char
  | 'n' => some '\n'
  | c => if c ∈ ['\\', '\'', '"', '$', ' '] then some c else none

/-- The reference to the variable with a name that was read. -/
def reference (letters : List Char) : Piece := .reference (String.ofList letters.reverse)

/-- Reads a character: the pieces that it completes and what comes next, unless it may not
stand there. The character behind a name stands for itself whatever it is, also if it is
a quote or a blank. -/
def step (reading : Reading) (c : Char) : Option (List Piece × Reading) :=
  match reading with
  | plain =>
    if c = '$' then some ([], .name false [])
    else if c = '\'' then some ([], .single)
    else if c = '"' then some ([], .double)
    else if c = '\\' then some ([], .escape false)
    else if c = ' ' ∨ c = '\t' then some ([], .done)
    else some ([.char c], .plain)
  | double =>
    if c = '$' then some ([], .name true [])
    else if c = '"' then some ([], .plain)
    else if c = '\\' then some ([], .escape true)
    else some ([.char c], .double)
  | single => if c = '\'' then some ([], .plain) else some ([.char c], .single)
  | escape quoted => (escaped? c).map fun c => ([.char c], inside quoted)
  | name quoted letters =>
    if isAlphanumeric c then some ([], .name quoted (c :: letters))
    else if c = '\x7b' ∧ letters = [] then some ([], .braces quoted [])
    else if c = '$' then some ([reference letters], .name quoted [])
    else some ([reference letters, .char c], inside quoted)
  | braces quoted letters =>
    if c = '\x7d' then some ([reference letters], inside quoted)
    else some ([], .braces quoted (c :: letters))
  | done =>
    if c = ' ' ∨ c = '\t' then some ([], .done)
    else if c = '#' then some ([], .comment)
    else none
  | comment => some ([], .comment)

/-- The pieces that the end of the value completes, unless something is open. -/
def close : Reading → Option (List Piece)
  | plain | escape false | done | comment => some []
  | name false letters => some [reference letters]
  | _ => none

/-- The pieces of a value. -/
def pieces? (reading : Reading) : List Char → Option (List Piece)
  | [] => reading.close
  | c :: text => do
    let (pieces, next) ← reading.step c
    return pieces ++ (← next.pieces? text)

end Reading

/-! ### Assignments -/

/-- An assignment of a value to a variable. -/
structure Assignment where
  name : String
  value : List Piece
deriving DecidableEq, Repr

/-- A character that names may start with. -/
def startsName (c : Char) : Bool := c.isAlpha || c == '_'

/-- A character of names. -/
def isNameChar (c : Char) : Bool := c.isAlphanum || c == '_' || c == '.'

/-- The name that a text starts with, and what follows without blanks before it. -/
def name? : List Char → Option (List Char × List Char)
  | [] => none
  | c :: text =>
    if startsName c then
      some ((c :: text).takeWhile isNameChar, trimStart ((c :: text).dropWhile isNameChar))
    else none

/-- The value that a text holds. A comment may stand for an empty one. -/
def value? (text : List Char) : Option (List Piece) :=
  match trimStart text with
  | [] | '#' :: _ => some []
  | text => Reading.pieces? .plain text

/-- The assignment `NAME=value`, where the name has been read. -/
def assignment? (name : List Char) : List Char → Option Assignment
  | '=' :: text => (value? text).map (⟨String.ofList name, ·⟩)
  | _ => none

/-- Reads an entry: nothing if it is blank or a comment, else an assignment. The word
`export` may stand before it; it may be the name of a variable as well. -/
def entry? (entry : List Char) : Option (Option Assignment) :=
  match trim entry with
  | [] | '#' :: _ => some none
  | text => do
    let (name, rest) ← name? text
    if name = "export".toList ∧ rest.head? ≠ some '=' then
      let (name, rest) ← name? rest
      return some (← assignment? name rest)
    else
      return some (← assignment? name rest)

/-- The assignments of some entries up to the first that is none. -/
def assignmentsOf : List (List Char) → List Assignment
  | [] => []
  | entry :: entries =>
    match entry? entry with
    | some (some assignment) => assignment :: assignmentsOf entries
    | some none => assignmentsOf entries
    | none => []

/-- The assignments of a file. -/
def assignments (text : String) : List Assignment :=
  assignmentsOf (entries (dropMark text.toList))

/-! ### Variables -/

/-- What a piece of a value stands for. A reference that finds nothing stands for
nothing. -/
def Piece.text (environment : Environment) : Piece → List Char
  | char c => [c]
  | reference name => ((environment.find? name).getD "").toList

/-- Makes an assignment, unless the variable is set. -/
def Assignment.make (environment : Environment) (assignment : Assignment) : Environment :=
  environment.provide assignment.name
    (String.ofList (assignment.value.flatMap (Piece.text environment)))

/-- The environment with the variables that a file provides. -/
def provideAll (environment : Environment) (text : String) : Environment :=
  (assignments text).foldl Assignment.make environment

/-- The names of the variables that a file sets or refers to. -/
def names (text : String) : List String :=
  (assignments text).flatMap fun assignment =>
    assignment.name :: assignment.value.filterMap fun
      | .reference name => some name
      | .char _ => none

end CodeReview.VariableFile
