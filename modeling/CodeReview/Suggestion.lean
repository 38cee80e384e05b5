import CodeReview.Comment
import CodeReview.Html.Parser
import CodeReview.Text.DecimalDigit
import CodeReview.Text.Search

/-!
# CodeReview.Suggestion

Suggested changes in formatted bodies. A body that names the class of suggested changes
anywhere may hold

* the lines that the change is for, as annotations `data-line-number="N"`;
* the code to take out and to put in, as table cells of two classes.

The annotations are read off the text of the body, the cells off the tree it stands for:
an annotation in a comment or inside some text counts, a cell there does not.
-/

namespace CodeReview

open Text

/-- What a formatted body suggests. -/
structure Suggestion where
  /-- The lines that the change is for. -/
  range : Option LineRange := none
  change : Option CodeChange := none
deriving DecidableEq, Repr

namespace Suggestion

/-- The class of suggested changes. -/
def blockClass : String := "js-suggested-changes-blob"

/-- The class of cells with code to take out. -/
def removedClass : String := "blob-code-deletion"

/-- The class of cells with code to put in. -/
def addedClass : String := "blob-code-addition"

/-- The body names the class of suggested changes. -/
def isIn (body : String) : Bool := holds body blockClass

/-! ### Lines -/

/-- How an annotation starts. -/
def annotationStart : List Char := "data-line-number=\"".toList

/-- The digits of the annotation that a text starts with. They are decimal digits of any
script, at least one, up to a quote. -/
def annotation? (text : List Char) : Option (List Char) :=
  (after? annotationStart text).bind fun text =>
    let digits := text.takeWhile isDecimalDigit
    match text.dropWhile isDecimalDigit with
    | '"' :: _ => if digits.isEmpty then none else some digits
    | _ => none

/-- The digits of the annotations of a text from left to right. The characters of an
annotation that has been found are passed over: `pass` counts those to come. -/
def annotationsFrom : (pass : Nat) → List Char → List (List Char)
  | _, [] => []
  | pass + 1, _ :: text => annotationsFrom pass text
  | 0, c :: text =>
    match annotation? (c :: text) with
    | some digits => digits :: annotationsFrom (annotationStart.length + digits.length) text
    | none => annotationsFrom 0 text

/-- The line numbers that the annotations of a text give; one that is no line number
gives none. -/
def annotatedLines (text : List Char) : List LineNumber :=
  (annotationsFrom 0 text).filterMap lineNumber?

/-- The least range that holds the given lines. -/
def hull? (lines : List LineNumber) : Option LineRange := do
  return ⟨← lines.min?, ← lines.max?⟩

/-- The lines that the change in a body is for. -/
def range? (body : String) : Option LineRange :=
  if isIn body then hull? (annotatedLines body.toList) else none

/-! ### Code -/

/-- The change that the cells among the given elements of a page make up. -/
def changeOfCells {ι : Type} (page : Html.Page ι) (elements : List ι) : Option CodeChange :=
  let texts name := (elements.filter (page.hasClass · name)).map page.trimmedText
  CodeChange.of? (texts removedClass) (texts addedClass)

/-- The change in a piece of a page. -/
def changeOfPiece {ι : Type} (piece : Html.Page ι) : Option CodeChange :=
  changeOfCells piece piece.elements

/-- The change in a body. -/
def change? (body : String) : Option CodeChange :=
  if isIn body then changeOfPiece (.ofPiece body) else none

/-- What a formatted body suggests. -/
def ofBody (body : String) : Suggestion := ⟨range? body, change? body⟩

/-- What a body suggests that may not be there. -/
def ofBody? (body : Option String) : Suggestion := (body.map ofBody).getD {}

@[simp] theorem ofBody?_none : ofBody? none = {} := rfl

@[simp] theorem ofBody?_some (body : String) : ofBody? (some body) = ofBody body := rfl

/-- A body that does not name the class suggests nothing. -/
theorem ofBody_of_not_isIn {body : String} (h : isIn body = false) : ofBody body = {} := by
  simp [ofBody, range?, change?, h]

end Suggestion

end CodeReview
