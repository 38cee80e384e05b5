import CodeReview.Html.Page

/-!
# CodeReview.Html.Tree

Pages written down as trees. This is the plain notion of a page: every element has its
children, and looking up leads back to where one came from.

An element does not know what is above and before it, so the elements of the page are
named by the ways to them (`Position`).
-/

namespace CodeReview.Html

/-- A node of a page. -/
inductive Node
  | element (name : String) (attributes : Attributes) (children : List Node)
  | text (content : String)
  | comment
  /-- What a template holds. -/
  | fragment (children : List Node)
deriving Repr, Inhabited

/-- An element with what it holds. -/
structure Element where
  name : String
  attributes : Attributes
  children : List Node
deriving Repr, Inhabited

/-- One step on the way to an element: an element on it, and the nodes before it under
the same parent, nearest first. -/
structure Step where
  element : Element
  before : List Node
deriving Repr, Inhabited

/-- An element of a page: the step to it, and the steps to the elements above it, nearest
first. -/
structure Position where
  here : Step
  above : List Step
deriving Repr, Inhabited

namespace Node

/-! ### Texts -/

mutual

/-- The characters of all texts in a node, in order. -/
def chars : Node → List Char
  | element _ _ children => charsOf children
  | text content => content.toList
  | comment => []
  | fragment children => charsOf children

/-- The characters of all texts in a list of nodes, in order. -/
def charsOf : List Node → List Char
  | [] => []
  | node :: nodes => node.chars ++ charsOf nodes

end

@[simp] theorem charsOf_nil : charsOf [] = [] := rfl

@[simp] theorem charsOf_cons (node : Node) (nodes : List Node) :
    charsOf (node :: nodes) = node.chars ++ charsOf nodes := rfl

theorem charsOf_append (nodes more : List Node) :
    charsOf (nodes ++ more) = charsOf nodes ++ charsOf more := by
  induction nodes with
  | nil => rfl
  | cons node nodes ih => simp [ih]

/-! ### Elements -/

mutual

/-- The elements in a node, itself included, each before what it holds, given what is
above and before the node. Nothing is above what a template holds. -/
def positions (above : List Step) (before : List Node) : Node → List Position
  | element name attributes children =>
    let here : Step := ⟨⟨name, attributes, children⟩, before⟩
    ⟨here, above⟩ :: positionsOf (here :: above) [] children
  | text _ => []
  | comment => []
  | fragment children => positionsOf [] [] children

/-- The elements in a list of nodes, given what is above and before them. -/
def positionsOf (above : List Step) (before : List Node) : List Node → List Position
  | [] => []
  | node :: nodes => node.positions above before ++ positionsOf above (node :: before) nodes

end

@[simp] theorem positionsOf_nil (above : List Step) (before : List Node) :
    positionsOf above before [] = [] := rfl

@[simp] theorem positionsOf_cons (above : List Step) (before : List Node) (node : Node)
    (nodes : List Node) :
    positionsOf above before (node :: nodes) =
      node.positions above before ++ positionsOf above (node :: before) nodes := rfl

theorem positionsOf_append (above : List Step) (before nodes more : List Node) :
    positionsOf above before (nodes ++ more) =
      positionsOf above before nodes ++ positionsOf above (nodes.reverse ++ before) more := by
  induction nodes generalizing before with
  | nil => rfl
  | cons node nodes ih => simp [ih]

end Node

namespace Position

/-- The elements on the way that the steps make, the last step first. -/
def ofSteps : List Step → List Position
  | [] => []
  | here :: above => ⟨here, above⟩ :: ofSteps above

/-- The last element among nodes that stand before something, nearest first. -/
def lastBefore? (above : List Step) : List Node → Option Position
  | [] => none
  | .element name attributes children :: before =>
    some ⟨⟨⟨name, attributes, children⟩, before⟩, above⟩
  | _ :: before => lastBefore? above before

end Position

/-- The page of a list of trees, which stand at its top. -/
def Node.pageOf (nodes : List Node) : Page Position where
  elements := positionsOf [] [] nodes
  name position := position.here.element.name
  attributes position := position.here.element.attributes
  chars position := charsOf position.here.element.children
  inner position :=
    positionsOf (position.here :: position.above) [] position.here.element.children
  above position := Position.ofSteps position.above
  previous? position := Position.lastBefore? position.above position.here.before

end CodeReview.Html
