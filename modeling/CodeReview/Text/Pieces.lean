/-!
# CodeReview.Text.Pieces

Texts cut at every occurrence of a character.
-/

namespace CodeReview.Text

/-- The pieces of a text between the occurrences of a character. -/
def pieces (mark : Char) : List Char → List (List Char)
  | [] => [[]]
  | c :: cs =>
    if c = mark then [] :: pieces mark cs
    else
      match pieces mark cs with
      | [] => [[c]]
      | piece :: rest => (c :: piece) :: rest

/-- There is always a piece. -/
theorem pieces_ne_nil (mark : Char) (cs : List Char) : pieces mark cs ≠ [] := by
  cases cs with
  | nil => simp [pieces]
  | cons c cs =>
    unfold pieces
    split
    · simp
    · split <;> simp

end CodeReview.Text
