import CodeReview.Proofs.Html.Layout
import CodeReview.Proofs.Text.Numeral
import CodeReview.ReviewPage.Threads

/-!
# CodeReview.Proofs.ReviewPage.Items

Reviews as lists of items, and the pages that show them. An item is a thread with one comment
on one line of a file. On a page it is a file element of its own, in which the row of the line
comes right before the row that holds the thread.

What else there is on the page does not matter as long as it bears none of the classes of
review pages (`Plain`): the elements between and around those of the item are not fixed.
-/

namespace CodeReview.ReviewPage

open Html Text

/-! ### Items -/

/-- A thread with one comment on one line, as a page can show it: nothing is written with
blanks around it, and the text does not speak of lines. -/
structure Item where
  path : String
  line : LineNumber
  resolved : Bool
  author : String
  body : String
  path_ne_empty : path ≠ ""
  body_ne_empty : body ≠ ""
  trimmed_author : trimmed author = author
  trimmed_body : trimmed body = body
  no_phrase : phrase? (author ++ body).toList = none

namespace Item

/-- The comment of an item, located by the given marker if there is one. -/
def comment (marker : Option String) (item : Item) : Comment where
  path := item.path
  anchor := .line item.line
  marker := marker
  author := item.author
  body := item.body
  change := none
  createdAt := none

/-- What becomes of the thread of an item. -/
def fate (marker : Option String) (item : Item) : Fate :=
  if item.resolved then .resolved else .kept [item.comment marker]

end Item

/-! ### Classes -/

/-- The classes by which review pages are read. -/
def reviewClasses : List String :=
  [threadClass, fileClass, threadRowClass, bodyClass, authorClass, Suggestion.blockClass]

/-- The classes of review pages that an element bears: the given one, or none. -/
def Bears (kind : Option String) (element : Element) : Prop :=
  ∀ name ∈ reviewClasses, element.hasClass name = decide (some name = kind)

/-- The element has no meaning on review pages. -/
abbrev Plain (element : Element) : Prop := Bears none element

/-- The element has no meaning in rows of code either. -/
def Unnumbered (element : Element) : Prop :=
  Plain element ∧ element.attribute? lineAttribute = none

/-! ### The parts of a page -/

/-- An element of a class of its own that holds a text. -/
structure IsPassage (passage : String × String) (element : Element) : Prop where
  bears : Bears (some passage.1) element
  chars : Node.charsOf element.children = passage.2.toList
  bare : Bare Plain element.children

/-- The thread of an item: it names the author and then says the body, and no other text is in
it. -/
structure IsThread (item : Item) (element : Element) : Prop where
  bears : Bears (some threadClass) element
  resolved : element.attribute? resolvedAttribute = some "true" ↔ item.resolved = true
  chars : Node.charsOf element.children = (item.author ++ item.body).toList
  passages : Shows Plain (Single IsPassage) [(authorClass, item.author), (bodyClass, item.body)]
    element.children

/-- The row that holds the thread of an item, and no other. -/
structure IsThreadRow (item : Item) (element : Element) : Prop where
  name : element.name = "tr"
  bears : Bears (some threadRowClass) element
  thread : Shows Plain (Single IsThread) [item] element.children

/-- The cell that gives the number of a line. -/
structure IsNumberCell (line : LineNumber) (element : Element) : Prop where
  plain : Plain element
  number : element.attribute? lineAttribute = some (lineText line)
  bare : Bare Unnumbered element.children

/-- The row of a line of code, with one number cell. -/
structure IsCodeRow (line : LineNumber) (element : Element) : Prop where
  plain : Plain element
  number : Shows Unnumbered (Single IsNumberCell) [line] element.children

/-- The node is no element, and holds none. -/
def IsGap (node : Node) : Prop := node = .comment ∨ ∃ content, node = .text content

/-- The rows of an item: that of its line, and right behind it that of its thread. -/
inductive IsRows (item : Item) : List Node → Prop
  | mk {code row : Element} {gap : List Node} :
      IsCodeRow item.line code → (∀ node ∈ gap, IsGap node) → IsThreadRow item row →
      IsRows item (code.node :: gap ++ [row.node])

/-- The file of an item, with its rows and no others that matter. -/
structure IsFile (item : Item) (element : Element) : Prop where
  bears : Bears (some fileClass) element
  path : element.attribute? pathAttribute = some item.path
  rows : Shows Plain IsRows [item] element.children

/-- The page shows the items in order, and no other threads. -/
def ShowsItems (items : List Item) (nodes : List Node) : Prop :=
  Shows Plain (Single IsFile) items nodes

end CodeReview.ReviewPage
