import CodeReview.Report
import CodeReview.Report.Fence

/-!
# CodeReview.Report.Render

The text of a report, in Markdown: a title, then a section for each comment with
the file and lines it speaks of, and either the change it suggests or its body.
-/

namespace CodeReview.Report

/-- What may differ between two renderings of one report. -/
structure Style where
  /-- The first line of the text. -/
  title : String
  /-- Inline suggestions in bodies become instructions. -/
  rewriteSuggestions : Bool
deriving DecidableEq, Repr

/-- The heading of a section. -/
def heading (path : String) (anchor : Anchor) : String := "## " ++ path ++ ": " ++ anchor.label

/-- The body of a comment as the report shows it. -/
def shownBody (style : Style) (body : String) : String :=
  if style.rewriteSuggestions then rewriteFences body else body

/-- What a section says under its heading. -/
def content (style : Style) (comment : Comment) : String :=
  match comment.change with
  | some change => "```diff\n" ++ change.diffText ++ "\n```"
  | none => shownBody style comment.body

/-- The section of a comment on the given file. -/
def sectionText (style : Style) (path : String) (comment : Comment) : String :=
  heading path comment.anchor ++ "\n\n" ++ content style comment ++ "\n\n---\n\n"

/-- The sections of a file. -/
def fileText (style : Style) (file : FileComments) : String :=
  String.join (file.comments.map (sectionText style file.path))

/-- The text of the report. -/
def render (style : Style) (report : Report) : String :=
  "# " ++ style.title ++ "\n\n" ++ String.join (report.files.map (fileText style))

/-- The one-line account of a report with the given number of sections. -/
def summary (count : Nat) : String :=
  Nat.repr count ++ (if count = 1 then " comment" else " comments") ++ " extracted"

end CodeReview.Report
