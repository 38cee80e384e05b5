/-!
# CodeReview.Text.ByteOrderMark

The mark U+FEFF that a text may carry in front.
-/

namespace CodeReview.Text

/-- The byte order mark. -/
def byteOrderMark : Char := '\uFEFF'

/-- The text without a byte order mark at its start. Of several marks only the first
is dropped. -/
def dropMark : List Char → List Char
  | c :: text => if c = byteOrderMark then text else c :: text
  | [] => []

end CodeReview.Text
