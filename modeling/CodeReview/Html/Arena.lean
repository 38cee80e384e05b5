import CodeReview.Html.Page

/-!
# CodeReview.Html.Arena

A page while it is built: its nodes in the order in which they came into being, each with
links to its parent, to its neighbours, and to its first and last child.

Design points:

* The children of a node are those that one meets from its first child on, going from
  neighbour to neighbour. No list of them is kept.
* Handing all children of a node over to another (`handOver`) changes the parent of the
  first and of the last one only. Those between go on naming the old parent, and whatever
  asks them for their parent later goes by that name: taking one of them out (`detach`)
  changes the children of the old parent, and a walk that comes back up from one of them
  goes on behind it (`walk`). So where formatting was repaired, the text of an element may
  lack parts, or hold more than what stands in the element.
* Comments are nodes, since a comment can be the first or the last child.

Numbers that name no node are ignored by all operations.
-/

namespace CodeReview.Html

/-- The vocabulary of an element. -/
inductive Space
  | html
  | svg
  | mathml
deriving DecidableEq, Repr, Inhabited

/-- What a node is. -/
inductive NodeKind
  | document
  /-- What a template holds. -/
  | fragment
  | element (name : String) (attributes : Attributes)
  /-- A text, last character first. -/
  | text (letters : List Char)
  | comment
deriving DecidableEq, Repr, Inhabited

/-- A node with its links. -/
structure Cell where
  kind : NodeKind
  parent : Option Nat := none
  /-- The neighbour before it. -/
  previous : Option Nat := none
  /-- The neighbour behind it. -/
  next : Option Nat := none
  /-- The first and the last child. -/
  ends : Option (Nat × Nat) := none
deriving DecidableEq, Repr, Inhabited

/-- The nodes of a page, by number. -/
structure Arena where
  cells : Array Cell
deriving DecidableEq, Repr, Inhabited

namespace Arena

/-- A page that holds nothing: its document, with the number zero. -/
def empty : Arena := ⟨#[{ kind := .document }]⟩

/-- The number of the document. -/
def document : Nat := 0

/-- The number of the next node. -/
def size (arena : Arena) : Nat := arena.cells.size

/-! ### Links -/

/-- The parent of a node, as the node knows it. -/
def parent? (arena : Arena) (id : Nat) : Option Nat := arena.cells[id]?.bind (·.parent)

/-- The neighbour before a node. -/
def previous? (arena : Arena) (id : Nat) : Option Nat := arena.cells[id]?.bind (·.previous)

/-- The neighbour behind a node. -/
def next? (arena : Arena) (id : Nat) : Option Nat := arena.cells[id]?.bind (·.next)

/-- The first and the last child of a node. -/
def ends? (arena : Arena) (id : Nat) : Option (Nat × Nat) := arena.cells[id]?.bind (·.ends)

/-- The first child of a node. -/
def first? (arena : Arena) (id : Nat) : Option Nat := (arena.ends? id).map (·.1)

/-- The last child of a node. -/
def last? (arena : Arena) (id : Nat) : Option Nat := (arena.ends? id).map (·.2)

/-- Changes one node. -/
def update (arena : Arena) (id : Nat) (change : Cell → Cell) : Arena :=
  ⟨arena.cells.modify id change⟩

/-- Changes one node, if there is one. -/
def updateAt (arena : Arena) (id : Option Nat) (change : Cell → Cell) : Arena :=
  match id with
  | some id => arena.update id change
  | none => arena

/-- Adds a node without links. -/
def create (arena : Arena) (kind : NodeKind) : Arena := ⟨arena.cells.push { kind }⟩

/-! ### Moving nodes -/

/-- The ends of the children when one with the given neighbours is taken out. A single
child is taken to be that one. -/
def endsWithout (id : Nat) (previous next : Option Nat) (ends : Nat × Nat) :
    Option (Nat × Nat) :=
  if ends.1 = ends.2 then none
  else if ends.1 = id then next.map (·, ends.2)
  else if ends.2 = id then previous.map (ends.1, ·)
  else some ends

/-- Takes a node out of its parent. -/
def detach (arena : Arena) (id : Nat) : Arena :=
  match arena.parent? id with
  | none => arena
  | some parent =>
    let previous := arena.previous? id
    let next := arena.next? id
    let arena := arena.update id fun cell =>
      { cell with parent := none, previous := none, next := none }
    let arena := arena.updateAt previous fun cell => { cell with next }
    let arena := arena.updateAt next fun cell => { cell with previous }
    arena.update parent fun cell =>
      { cell with ends := cell.ends.bind (endsWithout id previous next) }

/-- Moves a node to the end of a parent. -/
def append (arena : Arena) (parent id : Nat) : Arena :=
  let last := arena.last? parent
  if last = some id then arena
  else
    let arena := (arena.detach id).update id fun cell =>
      { cell with parent := some parent, previous := last }
    let arena := arena.updateAt last fun cell => { cell with next := some id }
    arena.update parent fun cell =>
      { cell with ends := some ((cell.ends.map (·.1)).getD id, id) }

/-- Moves a node before a sibling that has a parent. -/
def insertBefore (arena : Arena) (sibling id : Nat) : Arena :=
  let arena := arena.detach id
  match arena.parent? sibling with
  | none => arena
  | some parent =>
    let previous := arena.previous? sibling
    let arena := arena.update id fun cell =>
      { cell with parent := some parent, previous, next := some sibling }
    let arena := arena.updateAt previous fun cell => { cell with next := some id }
    let arena := arena.update sibling fun cell => { cell with previous := some id }
    arena.update parent fun cell =>
      { cell with ends := cell.ends.map fun (first, last) =>
          (if first = sibling then id else first, last) }

/-- Hands all children of a node over to another, behind those that it has. The parent
changes for the first and for the last of them only. -/
def handOver (arena : Arena) (source target : Nat) : Arena :=
  match arena.ends? source with
  | none => arena
  | some (first, last) =>
    let arena := arena.update source fun cell => { cell with ends := none }
    let arena := arena.update first fun cell => { cell with parent := some target }
    let arena := arena.update last fun cell => { cell with parent := some target }
    match arena.ends? target with
    | none => arena.update target fun cell => { cell with ends := some (first, last) }
    | some (oldFirst, oldLast) =>
      let arena := arena.update oldLast fun cell => { cell with next := some first }
      let arena := arena.update first fun cell => { cell with previous := some oldLast }
      arena.update target fun cell => { cell with ends := some (oldFirst, last) }

/-! ### Texts and attributes -/

/-- The node is a text. -/
def isText (arena : Arena) (id : Nat) : Bool :=
  match arena.cells[id]? with
  | some { kind := .text _, .. } => true
  | _ => false

/-- Adds a character to the end of a text. -/
def addChar (arena : Arena) (id : Nat) (c : Char) : Arena :=
  arena.update id fun cell =>
    match cell.kind with
    | .text letters => { cell with kind := .text (c :: letters) }
    | _ => cell

/-- Adds a new node at the end of a parent. -/
def appendNew (arena : Arena) (parent : Nat) (kind : NodeKind) : Arena :=
  let id := arena.size
  (arena.create kind).append parent id

/-- Adds a character at the end of a parent: to the text there, or in a text of its
own. -/
def appendChar (arena : Arena) (parent : Nat) (c : Char) : Arena :=
  match arena.last? parent with
  | some last =>
    if arena.isText last then arena.addChar last c else arena.appendNew parent (.text [c])
  | none => arena.appendNew parent (.text [c])

/-- Adds a new node before a sibling. -/
def insertNewBefore (arena : Arena) (sibling : Nat) (kind : NodeKind) : Arena :=
  let id := arena.size
  (arena.create kind).insertBefore sibling id

/-- Adds a character before a sibling: to the text there, or in a text of its own. -/
def insertCharBefore (arena : Arena) (sibling : Nat) (c : Char) : Arena :=
  match arena.previous? sibling with
  | some last =>
    if arena.isText last then arena.addChar last c else arena.insertNewBefore sibling (.text [c])
  | none => arena.insertNewBefore sibling (.text [c])

/-- The attributes with those of another list whose names are new. -/
def mergeAttributes (attributes more : Attributes) : Attributes :=
  attributes ++ more.filter fun (name, _) => !attributes.any (·.1 == name)

/-- Gives an element the attributes that it lacks. -/
def addAttributes (arena : Arena) (id : Nat) (more : Attributes) : Arena :=
  arena.update id fun cell =>
    match cell.kind with
    | .element name attributes =>
      { cell with kind := .element name (mergeAttributes attributes more) }
    | _ => cell

/-! ### Walking -/

/-- A stage of a walk: a node is entered, or left behind with all that it holds. -/
inductive Stage
  | enter (id : Nat)
  | leave (id : Nat)
deriving DecidableEq, Repr

/-- The stage after another one in a walk through a node, if the walk goes on. Whoever
has left a node without a neighbour behind it leaves its parent, as the node knows it. -/
def Stage.next? (arena : Arena) (root : Nat) : Stage → Option Stage
  | enter id =>
    match arena.first? id with
    | some child => some (enter child)
    | none => some (leave id)
  | leave id =>
    if id = root then none
    else
      match arena.next? id with
      | some neighbour => some (enter neighbour)
      | none => (arena.parent? id).map leave

/-- The nodes entered from a stage on, after those that were entered before it, last one
first. -/
def walkFrom (arena : Arena) (root : Nat) : Nat → Stage → List Nat → List Nat
  | 0, _, entered => entered.reverse
  | steps + 1, stage, entered =>
    let entered := match stage with
      | .enter id => id :: entered
      | .leave _ => entered
    match stage.next? arena root with
    | some stage => arena.walkFrom root steps stage entered
    | none => entered.reverse

/-- The nodes entered in a walk through a node, itself first. A walk that comes to a
stage again never ends, so one that ends has at most two stages for each node. -/
def walk (arena : Arena) (root : Nat) : List Nat :=
  arena.walkFrom root (2 * arena.size) (.enter root) []

/-! ### The finished page -/

/-- The node is an element. -/
def isElement (arena : Arena) (id : Nat) : Bool :=
  match arena.cells[id]? with
  | some { kind := .element _ _, .. } => true
  | _ => false

/-- The name of an element. -/
def name (arena : Arena) (id : Nat) : String :=
  match arena.cells[id]? with
  | some { kind := .element name _, .. } => name
  | _ => ""

/-- The attributes of an element. -/
def attributes (arena : Arena) (id : Nat) : Attributes :=
  match arena.cells[id]? with
  | some { kind := .element _ attributes, .. } => attributes
  | _ => []

/-- The characters of a text. -/
def letters (arena : Arena) (id : Nat) : List Char :=
  match arena.cells[id]? with
  | some { kind := .text letters, .. } => letters.reverse
  | _ => []

/-- The elements above a node up to a number, nearest first. -/
def above (arena : Arena) : Nat → Nat → List Nat
  | 0, _ => []
  | count + 1, id =>
    match arena.parent? id with
    | some parent => if arena.isElement parent then parent :: arena.above count parent else []
    | none => []

/-- The last element before a node, among a number of neighbours. -/
def elementBefore? (arena : Arena) : Nat → Nat → Option Nat
  | 0, _ => none
  | count + 1, id =>
    match arena.previous? id with
    | some previous =>
      if arena.isElement previous then some previous else arena.elementBefore? count previous
    | none => none

/-- The page as its readers see it. An element counts as long as it knows of a parent,
even if that has been taken out of the page. -/
def page (arena : Arena) : Page Nat where
  elements := (List.range arena.size).filter fun id =>
    arena.isElement id && (arena.parent? id).isSome
  name := arena.name
  attributes := arena.attributes
  chars id := (arena.walk id).flatMap arena.letters
  inner id := ((arena.walk id).drop 1).filter arena.isElement
  above := arena.above arena.size
  previous? := arena.elementBefore? arena.size

end Arena

end CodeReview.Html
