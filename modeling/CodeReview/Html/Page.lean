import CodeReview.Html.Token
import CodeReview.Text.Blank

/-!
# CodeReview.Html.Page

Pages as their readers see them: elements, what is inside them, and what is above and
before them.

A page does not say how it is stored. `ι` names its elements, and the page answers
questions about them, so what reads a page also reads one that is written down as a tree
(`CodeReview.Html.Tree`).

Two things are left to the page and must not be taken for granted. The elements need not
stand in the order of the text: content of a table that is moved before it, and
formatting that is repaired, come into being out of turn. And looking up need not lead
back to where one came from looking down: what a template holds is inside the template,
but the template is not above it.
-/

namespace CodeReview.Html

/-- A page with elements of a type of names. -/
structure Page (ι : Type) where
  /-- The elements, in the order in which they came into being. -/
  elements : List ι
  /-- The name of the tag of an element. -/
  name : ι → String
  attributes : ι → Attributes
  /-- The characters of all texts in an element, in order. -/
  chars : ι → List Char
  /-- The elements inside an element, each before what it holds. -/
  inner : ι → List ι
  /-- The elements above an element, nearest first. -/
  above : ι → List ι
  /-- The last element before an element under the same parent, if there is one. -/
  previous? : ι → Option ι

namespace Page

variable {ι : Type} (page : Page ι)

/-- The value of an attribute. -/
def attribute? (element : ι) (name : String) : Option String :=
  (page.attributes element).lookup name

/-- The classes of an element: the words of its attribute `class`. -/
def classes (element : ι) : List String :=
  (Text.words ((page.attribute? element "class").getD "").toList).map String.ofList

/-- The element has the class. -/
def hasClass (element : ι) (name : String) : Bool := (page.classes element).contains name

/-- The text in an element, without blanks at its ends. -/
def trimmedText (element : ι) : String := String.ofList (Text.trim (page.chars element))

/-- The first element of a class inside an element. -/
def firstOfClass? (element : ι) (name : String) : Option ι :=
  (page.inner element).find? (page.hasClass · name)

/-- The nearest element, the given one included, of which a property holds. -/
def closest? (p : ι → Bool) (element : ι) : Option ι := (element :: page.above element).find? p

end Page

end CodeReview.Html
