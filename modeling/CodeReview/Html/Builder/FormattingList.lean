import CodeReview.Html.Builder.Category

/-!
# CodeReview.Html.Builder.FormattingList

Formatting elements such as `a` and `b`, which misnested tags may leave open across the
elements they stand in. They are kept in a list, newest first: what was closed together
with an element around it is opened again where text goes on (`reopenFormatting`), and an
end tag that does not match the innermost element rearranges the tree
(`closeFormatting`).
-/

namespace CodeReview.Html

namespace Formatting

/-- The end of the reach of formatting. -/
def isMarker : Formatting → Bool
  | marker => true
  | element _ _ => false

/-- The entry of the element. -/
def hasId (id : Nat) : Formatting → Bool
  | marker => false
  | element other _ => other == id

/-- The entry of an element with the name. -/
def hasName (name : String) : Formatting → Bool
  | marker => false
  | element _ tag => tag.name == name

/-- The entry of an element that the tag would make again: the same name and the same
attributes in any order. -/
def isLike (tag : Tag) : Formatting → Bool
  | marker => false
  | element _ other =>
    other.name == tag.name && other.attributes.length == tag.attributes.length &&
      other.attributes.all tag.attributes.contains

end Formatting

namespace Builder

/-! ### The list -/

/-- The entries that are newer than the newest marker. -/
def recentFormatting (b : Builder) : List Formatting := b.formatting.takeWhile (!·.isMarker)

/-- Ends the reach of formatting here. -/
def addMarker (b : Builder) : Builder := { b with formatting := .marker :: b.formatting }

/-- Drops the entries up to and including the newest marker. -/
def dropToMarker (b : Builder) : Builder :=
  { b with formatting := (b.formatting.dropWhile (!·.isMarker)).drop 1 }

/-- The element has an entry. -/
def isFormatting (b : Builder) (id : Nat) : Bool := b.formatting.any (·.hasId id)

/-- The tag of the entry of an element. -/
def formattingTag? (b : Builder) (id : Nat) : Option Tag :=
  b.formatting.findSome? fun
    | .element other tag => if other = id then some tag else none
    | .marker => none

/-- Drops the entry of an element. -/
def dropFormatting (b : Builder) (id : Nat) : Builder :=
  { b with formatting := b.formatting.eraseP (·.hasId id) }

/-- Puts an entry in the place of that of an element. -/
def replaceFormatting (b : Builder) (id : Nat) (entry : Formatting) : Builder :=
  { b with formatting := b.formatting.map fun old => if old.hasId id then entry else old }

/-- Puts an entry after that of an element, as the next newer one. -/
def addFormattingAfter (b : Builder) (id : Nat) (entry : Formatting) : Builder :=
  let newer := b.formatting.takeWhile (!·.hasId id)
  { b with formatting := newer ++ entry :: b.formatting.drop newer.length }

/-- Drops the oldest of three entries like a tag, so that no more than three can be
open. -/
def limitLike (tag : Tag) (recent : List Formatting) : List Formatting :=
  if 3 ≤ recent.countP (·.isLike tag) then (recent.reverse.eraseP (·.isLike tag)).reverse
  else recent

/-- Adds a formatting element and opens it. -/
def insertFormatting (b : Builder) (tag : Tag) : Builder :=
  let older := b.formatting.drop b.recentFormatting.length
  let b := { b with formatting := limitLike tag b.recentFormatting ++ older }
  let (b, element) := b.insertIn .html tag
  { b with formatting := .element element.id tag :: b.formatting }

/-! ### Opening again -/

/-- The entry is a marker, or its element is open. -/
def isSettled (b : Builder) : Formatting → Bool
  | .marker => true
  | .element id _ => b.stack.any (·.id == id)

/-- Makes the element of an entry anew. -/
def reopen (b : Builder) : Formatting → Builder
  | .marker => b
  | .element _ tag =>
    let (b, element) := b.insertIn .html tag
    { b with formatting := .element element.id tag :: b.formatting }

/-- Makes the newest formatting elements anew, as far as they are not open. -/
def reopenFormatting (b : Builder) : Builder :=
  let lost := b.formatting.takeWhile (!b.isSettled ·)
  lost.reverse.foldl reopen { b with formatting := b.formatting.drop lost.length }

/-! ### Closing -/

/-- Walking outwards, an element with the name is met before any special one. -/
def endsOrdinary (name : String) : List OpenElement → Bool
  | [] => false
  | element :: outer => element.isNamed name || (!element.isSpecial && endsOrdinary name outer)

/-- The end tag of an ordinary element: closes the innermost one with the name, unless a
special element is in between. -/
def closeOrdinary (b : Builder) (name : String) : Builder :=
  if endsOrdinary name b.stack then b.popThroughNamed name else b

/-- The state of a rearrangement: the tree, the node that is moved, the place of the new
entry in the list, and the elements between that stay open, innermost first. -/
structure Rearranging where
  builder : Builder
  moved : Nat
  /-- The new entry comes after that of this element; else it replaces the old one. -/
  entryAfter : Option Nat
  kept : List OpenElement
  /-- Elements that may still be made anew. -/
  budget : Nat

/-- Passes an element between the formatting element and the special one inside it, going
outwards: one that is a formatting element itself is made anew around what is moved, at
most three of them; others are closed. -/
def Rearranging.pass (block : Nat) (r : Rearranging) (element : OpenElement) : Rearranging :=
  let budget := r.budget - 1
  match r.builder.formattingTag? element.id with
  | none => { r with budget }
  | some tag =>
    if r.budget = 0 then { r with builder := r.builder.dropFormatting element.id, budget }
    else
      let (b, fresh) := r.builder.create .html tag
      let b := b.replaceFormatting element.id (.element fresh.id tag)
      { builder := b.onArena fun arena => (arena.detach r.moved).append fresh.id r.moved
        moved := fresh.id
        entryAfter := if r.moved = block then some fresh.id else r.entryAfter
        kept := r.kept ++ [fresh]
        budget }

/-- Rearranges the tree around a formatting element and the outermost special element
inside it: `inner` are the open elements inside the special one, `between` those between
the two, innermost first, and `outer` those around the formatting element. -/
def rearrange (b : Builder) (id : Nat) (tag : Tag) (block : OpenElement)
    (inner between outer : List OpenElement) : Builder :=
  let start : Rearranging :=
    { builder := b, moved := block.id, entryAfter := none, kept := [], budget := 3 }
  let r := between.foldl (Rearranging.pass block.id) start
  let place := match outer with
    | ancestor :: _ => r.builder.target ancestor
    | [] => .inside Arena.document
  let b := (r.builder.onArena (·.detach r.moved)).place place r.moved
  let (b, fresh) := b.create .html tag
  let b := b.onArena fun arena =>
    (arena.handOver block.id fresh.id).append block.id fresh.id
  let entry := Formatting.element fresh.id tag
  let b := match r.entryAfter with
    | some mark => (b.addFormattingAfter mark entry).dropFormatting id
    | none => b.replaceFormatting id entry
  { b with stack := inner ++ fresh :: block :: r.kept ++ outer }

/-- One round of closing a formatting element. Gives the tree, and whether another round
follows. -/
def closeFormattingOnce (b : Builder) (name : String) : Builder × Bool :=
  match b.recentFormatting.find? (·.hasName name) with
  | some (.element id tag) =>
    let inside := b.stack.takeWhile (·.id != id)
    match b.stack.drop inside.length with
    | [] => (b.dropFormatting id, false)
    | _ :: outer =>
      if !b.inScope OpenElement.boundsScope (·.id == id) then (b, false)
      else
        match inside.reverse.find? OpenElement.isSpecial with
        | none => ({ b.dropFormatting id with stack := outer }, false)
        | some block =>
          let inner := inside.takeWhile (·.id != block.id)
          let between := inside.drop (inner.length + 1)
          (b.rearrange id tag block inner between outer, true)
  | _ => (b.closeOrdinary name, false)

/-- Rounds of closing a formatting element. -/
def closeFormattingRounds (b : Builder) (name : String) : Nat → Builder
  | 0 => b
  | rounds + 1 =>
    match b.closeFormattingOnce name with
    | (b, true) => b.closeFormattingRounds name rounds
    | (b, false) => b

/-- The end tag of a formatting element. -/
def closeFormatting (b : Builder) (name : String) : Builder :=
  match b.stack with
  | current :: _ =>
    if current.isNamed name && !b.isFormatting current.id then b.pop
    else b.closeFormattingRounds name 8
  | [] => b

end Builder

end CodeReview.Html
