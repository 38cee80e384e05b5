import CodeReview.Html.Arena

/-!
# CodeReview.Html.Builder

The state in which a tree is built from tokens, and the operations on it that the rules
share (`CodeReview.Html.Builder.Rules`).

Design points:

* The stack of open elements and the list of active formatting elements stand newest
  first. Both know of an element what the rules ask for, so that the rules need not look
  into the arena.
* New nodes go into the current element, with two exceptions: what a template holds goes
  into its fragment, and misplaced content of a table goes before the table
  (`Builder.target`).
-/

namespace CodeReview.Html

/-- An open element. -/
structure OpenElement where
  id : Nat
  space : Space
  name : String
deriving DecidableEq, Repr, Inhabited

namespace OpenElement

/-- An element of HTML with one of the names. -/
def isIn (element : OpenElement) (names : List String) : Bool :=
  element.space == .html && names.contains element.name

/-- The element of HTML with the name. -/
def isNamed (element : OpenElement) (name : String) : Bool :=
  element.space == .html && element.name == name

end OpenElement

/-- An entry of the list of active formatting elements. -/
inductive Formatting
  /-- Formatting does not reach beyond this point. -/
  | marker
  | element (id : Nat) (tag : Tag)
deriving DecidableEq, Repr

/-- What the page has come to, which decides what a token means. -/
inductive Mode
  | initial
  | beforeHtml
  | beforeHead
  | inHead
  | afterHead
  | inBody
  | inText
  | inTable
  | inTableText
  | inCaption
  | inColumnGroup
  | inTableBody
  | inRow
  | inCell
  | inSelect
  | inSelectInTable
  | inTemplate
  | afterBody
  | inFrameset
  | afterFrameset
  | afterAfterBody
  | afterAfterFrameset
deriving DecidableEq, Repr, Inhabited

/-- A tree being built. -/
structure Builder where
  arena : Arena := .empty
  mode : Mode := .initial
  /-- The mode to go back to after the text of an element or of a table. -/
  outerMode : Mode := .initial
  /-- The open elements, innermost first. -/
  stack : List OpenElement := []
  /-- The active formatting elements, newest first. -/
  formatting : List Formatting := []
  /-- The modes of the open templates, innermost first. -/
  templateModes : List Mode := []
  /-- Text in a table that is still to be placed, last character first. -/
  tableText : List Char := []
  head : Option OpenElement := none
  form : Option Nat := none
  /-- The page may still turn out to consist of frames. -/
  framesAllowed : Bool := true
  /-- Misplaced content goes before the table. -/
  fostering : Bool := false
  /-- A newline that comes next is dropped. -/
  skipsNewline : Bool := false
  /-- The page is older than the standards: a table may stand in a paragraph. -/
  outdated : Bool := false
  /-- A piece of a body is built, not a page. -/
  isPiece : Bool := false
deriving Repr, Inhabited

namespace Builder

/-! ### Open elements -/

/-- The innermost open element satisfies the condition. -/
def currentIs (b : Builder) (p : OpenElement → Bool) : Bool := b.stack.head?.any p

/-- The innermost open element has the name. -/
def currentNamed (b : Builder) (name : String) : Bool := b.currentIs (·.isNamed name)

/-- An element with the name is open. -/
def hasOpen (b : Builder) (name : String) : Bool := b.stack.any (·.isNamed name)

/-- Walking outwards from the innermost open element, one is met that is sought before
any that bounds the scope. -/
def reaches (sought bounds : OpenElement → Bool) : List OpenElement → Bool
  | [] => false
  | element :: outer => sought element || (!bounds element && reaches sought bounds outer)

/-- An element that is sought is in the scope. -/
def inScope (b : Builder) (bounds sought : OpenElement → Bool) : Bool :=
  reaches sought bounds b.stack

/-- The element with the name is in the scope. -/
def namedInScope (b : Builder) (bounds : OpenElement → Bool) (name : String) : Bool :=
  b.inScope bounds (·.isNamed name)

/-- Closes the innermost open element. -/
def pop (b : Builder) : Builder := { b with stack := b.stack.drop 1 }

/-- Closes elements up to and including the first that satisfies the condition. -/
def popThrough (b : Builder) (p : OpenElement → Bool) : Builder :=
  { b with stack := (b.stack.dropWhile (!p ·)).drop 1 }

/-- Closes elements up to and including the first with the name. -/
def popThroughNamed (b : Builder) (name : String) : Builder := b.popThrough (·.isNamed name)

/-- Closes elements until the innermost satisfies the condition. -/
def popTo (b : Builder) (p : OpenElement → Bool) : Builder :=
  { b with stack := b.stack.dropWhile (!p ·) }

/-- Closes an open element, wherever it stands. -/
def removeOpen (b : Builder) (id : Nat) : Builder :=
  { b with stack := b.stack.eraseP (·.id == id) }

/-- Opens an element. -/
def push (b : Builder) (element : OpenElement) : Builder :=
  { b with stack := element :: b.stack }

/-- The outermost open element, which is the root of the page. -/
def root? (b : Builder) : Option OpenElement := b.stack.getLast?

/-- The body of the page, if it is open. -/
def body? (b : Builder) : Option OpenElement :=
  match b.stack.reverse with
  | _ :: body :: _ => if body.isNamed "body" then some body else none
  | _ => none

/-! ### Where nodes go -/

/-- A place for a new node. -/
inductive Target
  /-- At the end of a node. -/
  | inside (parent : Nat)
  /-- Before a table, or at the end of `otherwise` when the table has no parent. -/
  | before (table otherwise : Nat)
deriving DecidableEq, Repr

/-- Elements whose misplaced content goes before the table. -/
def fosterParents : List String := ["table", "tbody", "tfoot", "thead", "tr"]

/-- The node that takes what an element holds: for a template, its fragment, which came
into being right after it. -/
def contentOf (element : OpenElement) : Nat :=
  if element.isNamed "template" then element.id + 1 else element.id

/-- The place for misplaced content: before the innermost table, unless a template comes
first, else at the end of the root. -/
def fosterTarget : List OpenElement → Target
  | [] => .inside Arena.document
  | element :: outer =>
    if element.isNamed "template" then .inside (contentOf element)
    else
      match outer with
      | [] => .inside element.id
      | next :: _ =>
        if element.isNamed "table" then .before element.id next.id else fosterTarget outer

/-- The place for a node that belongs into an element. -/
def target (b : Builder) (element : OpenElement) : Target :=
  if b.fostering && element.isIn fosterParents then fosterTarget b.stack
  else .inside (contentOf element)

/-- The place for a node that belongs into the innermost open element. -/
def here (b : Builder) : Target :=
  match b.stack with
  | [] => .inside Arena.document
  | current :: _ => b.target current

/-- Changes the arena. It is handed over to the change and not held meanwhile, so that
it can be changed in place. -/
@[noinline]
def onArena (b : Builder) (change : Arena → Arena) : Builder :=
  { b with arena := change b.arena }

/-- Moves a node to a place. -/
def place (b : Builder) (target : Target) (id : Nat) : Builder :=
  match target with
  | .inside parent => b.onArena (·.append parent id)
  | .before table otherwise =>
    if (b.arena.parent? table).isSome then b.onArena (·.insertBefore table id)
    else b.onArena (·.append otherwise id)

/-- Adds a comment at a place. -/
def addComment (b : Builder) (target : Target) : Builder :=
  let id := b.arena.size
  (b.onArena (·.create .comment)).place target id

/-- Adds a character of text. -/
def addText (b : Builder) (c : Char) : Builder :=
  match b.here with
  | .inside parent => b.onArena (·.appendChar parent c)
  | .before table otherwise =>
    if (b.arena.parent? table).isSome then b.onArena (·.insertCharBefore table c)
    else b.onArena (·.appendChar otherwise c)

/-! ### New elements -/

/-- Brings an element into being, without a place. A template comes with its fragment. -/
def create (b : Builder) (space : Space) (tag : Tag) : Builder × OpenElement :=
  let element : OpenElement := { id := b.arena.size, space, name := tag.name }
  let b := b.onArena (·.create (.element tag.name tag.attributes))
  (if element.isNamed "template" then b.onArena (·.appendNew element.id .fragment) else b, element)

/-- Adds an element at a place, without opening it. -/
def addAt (b : Builder) (space : Space) (tag : Tag) (target : Target) : Builder × OpenElement :=
  let (b, element) := b.create space tag
  (b.place target element.id, element)

/-- Adds an element and opens it. -/
def insertIn (b : Builder) (space : Space) (tag : Tag) : Builder × OpenElement :=
  let (b, element) := b.addAt space tag b.here
  (b.push element, element)

/-- Adds an element of HTML and opens it. -/
def insert (b : Builder) (tag : Tag) : Builder := (b.insertIn .html tag).1

/-- Adds an element of HTML that holds nothing. -/
def insertEmpty (b : Builder) (tag : Tag) : Builder := (b.addAt .html tag b.here).1

/-- Adds an element of HTML that no tag asks for, and opens it. -/
def insertImplied (b : Builder) (name : String) : Builder := b.insert { name }

/-- Adds an element of another vocabulary; it is open unless its tag closes itself. -/
def insertForeign (b : Builder) (space : Space) (tag : Tag) : Builder :=
  if tag.selfClosing then (b.addAt space tag b.here).1 else (b.insertIn space tag).1

/-- Adds the root of the page and opens it. -/
def insertRoot (b : Builder) (attributes : Attributes) : Builder :=
  let (b, element) := b.addAt .html { name := "html", attributes } (.inside Arena.document)
  b.push element

/-- Gives an element attributes that it lacks. -/
def addAttributes (b : Builder) (id : Nat) (attributes : Attributes) : Builder :=
  b.onArena (·.addAttributes id attributes)

/-! ### Small changes -/

/-- Goes on in another mode. -/
def into (b : Builder) (mode : Mode) : Builder := { b with mode }

/-- From here on the page does not consist of frames. -/
def forbidFrames (b : Builder) : Builder := { b with framesAllowed := false }

end Builder

end CodeReview.Html
