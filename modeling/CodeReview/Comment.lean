import CodeReview.Anchor

/-!
# CodeReview.Comment

A review comment once it is located: the common form of what the two kinds of
review pages hold, and what a report is made of.
-/

namespace CodeReview

/-- A suggested change of code: the lines to take out and the lines to put in. -/
structure CodeChange where
  removed : List String
  added : List String
deriving DecidableEq, Repr

namespace CodeChange

/-- The change that takes out and puts in the given lines, if it does anything. -/
def of? (removed added : List String) : Option CodeChange :=
  if removed.isEmpty && added.isEmpty then none else some ⟨removed, added⟩

theorem of?_eq_some_iff {removed added : List String} {change : CodeChange} :
    of? removed added = some change ↔
      change = ⟨removed, added⟩ ∧ (removed ≠ [] ∨ added ≠ []) := by
  cases removed <;> cases added <;> simp [of?, eq_comm]

/-- The lines that the change is about: those to take out, and those to put in. -/
def lines (change : CodeChange) : List String := change.removed ++ change.added

/-- The lines of the change as a diff shows them: first those taken out, then those
put in, each behind its sign. -/
def signedLines (change : CodeChange) : List String :=
  change.removed.map ("- " ++ ·) ++ change.added.map ("+ " ++ ·)

/-- The change as the text of a diff, without a newline at its end. -/
def diffText (change : CodeChange) : String := "\n".intercalate change.signedLines

theorem toList_diffText (change : CodeChange) :
    change.diffText.toList = ['\n'].intercalate (change.signedLines.map String.toList) := by
  simp [diffText, String.toList_intercalate]

end CodeChange

/-- A located review comment. -/
structure Comment where
  /-- The commented file. -/
  path : String
  anchor : Anchor
  /-- The diff marker that located the comment, where one did. -/
  marker : Option String
  author : String
  body : String
  change : Option CodeChange
  /-- The time of writing, exactly as the page gives it. -/
  createdAt : Option String
deriving DecidableEq, Repr

/-- The author of a comment that names none. -/
def unknownAuthor : String := "Unknown"

end CodeReview
