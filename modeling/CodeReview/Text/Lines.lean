/-!
# CodeReview.Text.Lines

Texts cut into lines. Each line keeps its newline, so the lines of a text joined
again are the text, and only the last one may lack the newline.
-/

namespace CodeReview.Text

/-- The lines of a text, each with its newline. -/
def lines : List Char → List (List Char)
  | [] => []
  | c :: cs =>
    if c = '\n' then
      ['\n'] :: lines cs
    else
      match lines cs with
      | [] => [[c]]
      | line :: rest => (c :: line) :: rest

/-- Nothing is lost. -/
theorem flatten_lines (cs : List Char) : (lines cs).flatten = cs := by
  induction cs with
  | nil => rfl
  | cons c cs ih =>
    unfold lines
    split
    · next h => simp [h, ih]
    · split
      · next h => rw [h] at ih; simpa using ih
      · next h => rw [h] at ih; simpa using ih

/-- The line terminator that a line carries: carriage return and newline, a newline,
or nothing. -/
def terminator (line : List Char) : List Char :=
  match line.reverse with
  | '\n' :: '\r' :: _ => ['\r', '\n']
  | '\n' :: _ => ['\n']
  | _ => []

end CodeReview.Text
