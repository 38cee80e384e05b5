import CodeReview.Html.Builder.FormattingList

/-!
# CodeReview.Html.Builder.Outcome

What a rule makes of a token, and the steps that the rules of several modes share.

A rule changes the tree and says how to go on: the token is done, or it is to be looked
at again in the mode the builder has now, or the lexer has to read the characters that
follow in a special way. Rules of one mode use those of another by calling them, so the
rules are plain functions without recursion; only looking again goes round, and each time
an element was closed or the mode came closer to that of the body.
-/

namespace CodeReview.Html

/-- How to go on after a rule. -/
inductive Next
  | done
  /-- The token is looked at again. -/
  | again
  /-- The characters that follow are of a kind. -/
  | read (kind : TextKind)
deriving DecidableEq, Repr

/-- What a rule makes of a token. -/
structure Outcome where
  builder : Builder
  next : Next
deriving Repr

/-- White space in the text of a page. -/
def isPageSpace (c : Char) : Bool := isSpace c || c == '\r'

namespace Builder

/-- The token is done. -/
def done (b : Builder) : Outcome := ⟨b, .done⟩

/-- The token is looked at again in another mode. -/
def againIn (b : Builder) (mode : Mode) : Outcome := ⟨b.into mode, .again⟩

/-- Adds an element whose text is read in a special way. -/
def readElement (b : Builder) (tag : Tag) (kind : TextKind) : Outcome :=
  let b := b.insert tag
  ⟨{ b with outerMode := b.mode, mode := .inText }, .read kind⟩

/-- Gives the root the attributes of a second tag for it, outside templates. -/
def mergeRoot (b : Builder) (tag : Tag) : Builder :=
  match b.root? with
  | some root => if b.hasOpen "template" then b else b.addAttributes root.id tag.attributes
  | none => b

/-! ### The mode that the open elements ask for -/

/-- The mode inside a selection, given the elements around it. -/
def selectMode (outer : List OpenElement) : Mode :=
  match outer.find? (·.isIn ["template", "table"]) with
  | some element => if element.name == "table" then .inSelectInTable else .inSelect
  | none => .inSelect

/-- The mode that an open element of HTML asks for, given those around it; `none` leaves
it to those. The outermost element of a piece counts as its body. -/
def modeOf? (b : Builder) (element : OpenElement) (outer : List OpenElement) : Option Mode :=
  let name := if outer.isEmpty && b.isPiece then "body" else element.name
  if element.space != .html then none
  else if name == "select" then some (selectMode outer)
  else if name == "td" || name == "th" then if outer.isEmpty then none else some .inCell
  else if name == "tr" then some .inRow
  else if name == "tbody" || name == "thead" || name == "tfoot" then some .inTableBody
  else if name == "caption" then some .inCaption
  else if name == "colgroup" then some .inColumnGroup
  else if name == "table" then some .inTable
  else if name == "template" then some (b.templateModes.head?.getD .inBody)
  else if name == "head" then if outer.isEmpty then none else some .inHead
  else if name == "body" then some .inBody
  else if name == "frameset" then some .inFrameset
  else if name == "html" then some (if b.head.isNone then .beforeHead else .afterHead)
  else none

/-- The mode that a list of open elements asks for. -/
def modeFor (b : Builder) : List OpenElement → Mode
  | [] => .inBody
  | element :: outer => (b.modeOf? element outer).getD (b.modeFor outer)

/-- Goes on in the mode that the open elements ask for. -/
def resetMode (b : Builder) : Builder := b.into (b.modeFor b.stack)

/-! ### Templates -/

/-- Closes the innermost template, with its formatting and its mode. -/
def closeTemplate (b : Builder) : Builder :=
  let b := (b.popThroughNamed "template").dropToMarker
  { b with templateModes := b.templateModes.drop 1 }.resetMode

/-- The end tag of a template. -/
def endTemplate (b : Builder) : Outcome :=
  if b.hasOpen "template" then (b.popTo (!·.isIn impliedEndsInTemplate)).closeTemplate.done
  else b.done

/-- The end of the text: open templates are closed one by one. -/
def endOfText (b : Builder) : Outcome :=
  if !b.templateModes.isEmpty && b.hasOpen "template" then ⟨b.closeTemplate, .again⟩
  else b.done

end Builder

end CodeReview.Html
