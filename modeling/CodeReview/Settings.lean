import CodeReview.Failure
import CodeReview.Report.Render
import CodeReview.Text.Blank
import CodeReview.Text.LowerCase

/-!
# CodeReview.Settings

What a run may be told: where to look for the review in a document, the title of the
report, and whether inline suggestions are rewritten. The environment may set each of
them.
-/

namespace CodeReview

open Text

/-- Where to look for the review in a document. -/
inductive SourceMode
  /-- In whatever the document holds. -/
  | auto
  /-- In a payload only. -/
  | structured
  /-- In the markup of a page only. -/
  | markup
deriving DecidableEq, Repr

/-- The source mode that a word names; blanks around it and its case do not matter. -/
def SourceMode.ofWord? (word : String) : Except Failure SourceMode :=
  let word := lowerCase (trimmed word)
  if word ∈ ["", "auto"] then .ok .auto
  else if word ∈ ["structured", "json", "payload"] then .ok .structured
  else if word ∈ ["markup", "html", "legacy", "classic"] then .ok .markup
  else .error (.unknownMode word)

/-- The settings of a run. -/
structure Settings where
  mode : SourceMode := .auto
  title : String := "PR Review Comments"
  rewriteSuggestions : Bool := true
deriving DecidableEq, Repr

namespace Settings

/-- How the settings want a report to be rendered. -/
def style (settings : Settings) : Report.Style := ⟨settings.title, settings.rewriteSuggestions⟩

/-- A word that switches something on. -/
def isYes (word : String) : Bool := lowerCase word ∈ ["1", "true", "yes", "on"]

/-- The title that a text gives: the text without blanks at its ends, if that leaves
anything. -/
def title? (text : String) : Option String :=
  let title := trimmed text
  if title = "" then none else some title

/-- The variable that sets the source mode. -/
def modeVariable : String := "PR_DIGEST_SOURCE"

/-- The variable that sets the title. -/
def titleVariable : String := "PR_DIGEST_TITLE"

/-- The variable that sets whether inline suggestions are rewritten. -/
def rewriteVariable : String := "PR_DIGEST_INLINE_REWRITE"

/-- The settings that the environment asks for. A variable that is not set leaves the
default, and so does a blank title. -/
def ofVariables (lookup : String → Option String) : Except Failure Settings := do
  let default : Settings := {}
  let mode ← match lookup modeVariable with
    | some word => SourceMode.ofWord? word
    | none => .ok default.mode
  return {
    mode
    title := ((lookup titleVariable).bind title?).getD default.title
    rewriteSuggestions := ((lookup rewriteVariable).map isYes).getD default.rewriteSuggestions }

end Settings

end CodeReview
