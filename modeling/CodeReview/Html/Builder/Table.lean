import CodeReview.Html.Builder.Body

/-!
# CodeReview.Html.Builder.Table

The rules for tables. Rows and bodies that a page leaves out are put in, parts of a table
that cannot stand in one another close each other, and content that has no place in a
table goes before it.
-/

namespace CodeReview.Html.Builder

open OpenElement (boundsTable holdsRows holdsCells isCell)

/-! ### Misplaced content -/

/-- A token follows the rules of the body, but new nodes go before the table. -/
def foster (b : Builder) (token : Token) : Outcome :=
  let outcome := { b with fostering := true }.bodyRule token
  { outcome with builder := { outcome.builder with fostering := false } }

/-- Places the text that was read in a table: blanks stay there, other text goes before
it. -/
def flushTableText (b : Builder) : Builder :=
  let text := b.tableText.reverse
  let b := { b with tableText := [], mode := b.outerMode }
  if text.all isPageSpace then text.foldl addText b
  else { text.foldl bodyChar { b with fostering := true } with fostering := false }

/-- In the text of a table. -/
def tableTextRule (b : Builder) : Token → Outcome
  | .char c => (if c = '\x00' then b else { b with tableText := c :: b.tableText }).done
  | _ => ⟨b.flushTableText, .again⟩

/-! ### The table itself -/

/-- Closes what stands in the table. -/
def popToTable (b : Builder) : Builder := b.popTo boundsTable

/-- Closes the table. -/
def closeTable (b : Builder) : Builder := (b.popThroughNamed "table").resetMode

/-- A start tag in a table. -/
def tableStart (b : Builder) (tag : Tag) : Outcome :=
  let name := tag.name
  if name = "caption" then ((b.popToTable.addMarker.insert tag).into .inCaption).done
  else if name = "colgroup" then ((b.popToTable.insert tag).into .inColumnGroup).done
  else if name = "col" then (b.popToTable.insertImplied "colgroup").againIn .inColumnGroup
  else if name ∈ ["tbody", "tfoot", "thead"] then
    ((b.popToTable.insert tag).into .inTableBody).done
  else if name ∈ ["td", "th", "tr"] then
    (b.popToTable.insertImplied "tbody").againIn .inTableBody
  else if name = "table" then
    if b.namedInScope boundsTable "table" then ⟨b.closeTable, .again⟩ else b.done
  else if name ∈ ["style", "script", "template"] then b.startHeadContent tag
  else if name = "input" ∧ isHidden tag then (b.insertEmpty tag).done
  else if name = "form" then
    if b.hasOpen "template" || b.form.isSome then b.done
    else
      let (b, element) := b.addAt .html tag b.here
      { b with form := some element.id }.done
  else b.foster (.start tag)

/-- In a table. -/
def tableRule (b : Builder) (token : Token) : Outcome :=
  match token with
  | .char _ =>
    if b.currentIs (·.isIn fosterParents) then
      { b with outerMode := b.mode, tableText := [] }.againIn .inTableText
    else b.foster token
  | .start tag => b.tableStart tag
  | .close name =>
    if name = "table" then
      (if b.namedInScope boundsTable "table" then b.closeTable else b).done
    else if name ∈ ["body", "caption", "col", "colgroup", "html", "tbody", "td", "tfoot", "th",
        "thead", "tr"] then b.done
    else if name = "template" then b.endTemplate
    else b.foster token
  | .eof => b.endOfText
  | _ => b.done

/-! ### Captions and columns -/

/-- Parts of a table. -/
def partNames : List String := [
  "caption", "col", "colgroup", "tbody", "td", "tfoot", "th", "thead", "tr"]

/-- Closes the caption, if one is open, and goes on in the table. -/
def closeCaption (b : Builder) (next : Next) : Outcome :=
  if b.namedInScope boundsTable "caption" then
    let b := (b.closeImplied.popThroughNamed "caption").dropToMarker
    ⟨b.into .inTable, next⟩
  else b.done

/-- In a caption. -/
def captionRule (b : Builder) (token : Token) : Outcome :=
  match token with
  | .start tag => if tag.name ∈ partNames then b.closeCaption .again else b.bodyRule token
  | .close name =>
    if name = "caption" then b.closeCaption .done
    else if name = "table" then b.closeCaption .again
    else if name ∈ "body" :: "html" :: partNames then b.done
    else b.bodyRule token
  | _ => b.bodyRule token

/-- In a group of columns. -/
def columnGroupRule (b : Builder) (token : Token) : Outcome :=
  let otherwise := if b.currentNamed "colgroup" then b.pop.againIn .inTable else b.done
  match token with
  | .char c => if isPageSpace c then (b.addText c).done else otherwise
  | .start tag =>
    if tag.name = "html" then (b.mergeRoot tag).done
    else if tag.name = "col" then (b.insertEmpty tag).done
    else if tag.name = "template" then b.startHeadContent tag
    else otherwise
  | .close name =>
    if name = "colgroup" then
      (if b.currentNamed "colgroup" then b.pop.into .inTable else b).done
    else if name = "col" then b.done
    else if name = "template" then b.endTemplate
    else otherwise
  | .eof => b.endOfText
  | _ => b.done

/-! ### Rows -/

/-- Closes what stands in the body of the table, and the body. -/
def closeTableBody (b : Builder) : Builder := (b.popTo holdsRows).pop

/-- In a body of a table. -/
def tableBodyRule (b : Builder) (token : Token) : Outcome :=
  let leave := if b.inScope boundsTable (·.isIn ["table", "tbody", "tfoot"]) then
    b.closeTableBody.againIn .inTable else b.done
  match token with
  | .start tag =>
    if tag.name = "tr" then (((b.popTo holdsRows).insert tag).into .inRow).done
    else if tag.name ∈ ["th", "td"] then
      ((b.popTo holdsRows).insertImplied "tr").againIn .inRow
    else if tag.name ∈ ["caption", "col", "colgroup", "tbody", "tfoot", "thead"] then leave
    else b.tableRule token
  | .close name =>
    if name ∈ ["tbody", "tfoot", "thead"] then
      (if b.namedInScope boundsTable name then b.closeTableBody.into .inTable else b).done
    else if name = "table" then leave
    else if name ∈ ["body", "caption", "col", "colgroup", "html", "td", "th", "tr"] then b.done
    else b.tableRule token
  | _ => b.tableRule token

/-- Closes what stands in the row, and the row. -/
def closeRow (b : Builder) : Builder := (b.popTo holdsCells).pop

/-- In a row. -/
def rowRule (b : Builder) (token : Token) : Outcome :=
  let inRow := b.namedInScope boundsTable "tr"
  let leave := if inRow then b.closeRow.againIn .inTableBody else b.done
  match token with
  | .start tag =>
    if tag.name ∈ ["th", "td"] then
      (((b.popTo holdsCells).insert tag).addMarker.into .inCell).done
    else if tag.name ∈ ["caption", "col", "colgroup", "tbody", "tfoot", "thead", "tr"] then leave
    else b.tableRule token
  | .close name =>
    if name = "tr" then (if inRow then b.closeRow.into .inTableBody else b).done
    else if name = "table" then leave
    else if name ∈ ["tbody", "tfoot", "thead"] then
      if b.namedInScope boundsTable name then leave else b.done
    else if name ∈ ["body", "caption", "col", "colgroup", "html", "td", "th"] then b.done
    else b.tableRule token
  | _ => b.tableRule token

/-! ### Cells -/

/-- Closes the cell and goes on in the row, where the token is looked at again. -/
def leaveCell (b : Builder) : Outcome :=
  (b.closeImplied.popThrough isCell).dropToMarker.againIn .inRow

/-- In a cell. -/
def cellRule (b : Builder) (token : Token) : Outcome :=
  match token with
  | .start tag =>
    if tag.name ∈ partNames then if b.inScope boundsTable isCell then b.leaveCell else b.done
    else b.bodyRule token
  | .close name =>
    if name ∈ ["td", "th"] then
      (if b.namedInScope boundsTable name then
        (b.closeImplied.popThroughNamed name).dropToMarker.into .inRow else b).done
    else if name ∈ ["body", "caption", "col", "colgroup", "html"] then b.done
    else if name ∈ ["table", "tbody", "tfoot", "thead", "tr"] then
      if b.namedInScope boundsTable name then b.leaveCell else b.done
    else b.bodyRule token
  | _ => b.bodyRule token

/-! ### Selections -/

/-- Closes the selection. -/
def closeSelect (b : Builder) : Builder := (b.popThroughNamed "select").resetMode

/-- A selection is in scope. -/
def inSelection (b : Builder) : Bool := b.namedInScope OpenElement.boundsSelect "select"

/-- The end tag of a group of options closes an option inside it as well. -/
def endOptionGroup (b : Builder) : Builder :=
  let b := match b.stack with
    | option :: group :: _ =>
      if option.isNamed "option" && group.isNamed "optgroup" then b.pop else b
    | _ => b
  if b.currentNamed "optgroup" then b.pop else b

/-- In a selection. -/
def selectRule (b : Builder) : Token → Outcome
  | .char c => (if c = '\x00' then b else b.addText c).done
  | .start tag =>
    let name := tag.name
    if name = "html" then (b.mergeRoot tag).done
    else if name = "option" then
      ((if b.currentNamed "option" then b.pop else b).insert tag).done
    else if name = "optgroup" then
      let b := if b.currentNamed "option" then b.pop else b
      ((if b.currentNamed "optgroup" then b.pop else b).insert tag).done
    else if name = "hr" then
      let b := if b.currentNamed "option" then b.pop else b
      ((if b.currentNamed "optgroup" then b.pop else b).insertEmpty tag).done
    else if name = "select" then (if b.inSelection then b.closeSelect else b).done
    else if name ∈ ["input", "keygen", "textarea"] then
      if b.inSelection then ⟨b.closeSelect, .again⟩ else b.done
    else if name ∈ ["script", "template"] then b.startHeadContent tag
    else b.done
  | .close name =>
    if name = "optgroup" then b.endOptionGroup.done
    else if name = "option" then (if b.currentNamed "option" then b.pop else b).done
    else if name = "select" then (if b.inSelection then b.closeSelect else b).done
    else if name = "template" then b.endTemplate
    else b.done
  | .eof => b.endOfText
  | _ => b.done

/-- In a selection inside a table, whose parts close it. -/
def selectInTableRule (b : Builder) (token : Token) : Outcome :=
  let names := ["caption", "table", "tbody", "tfoot", "thead", "tr", "td", "th"]
  match token with
  | .start tag => if tag.name ∈ names then ⟨b.closeSelect, .again⟩ else b.selectRule token
  | .close name =>
    if name ∈ names then
      if b.namedInScope boundsTable name then ⟨b.closeSelect, .again⟩ else b.done
    else b.selectRule token
  | _ => b.selectRule token

end CodeReview.Html.Builder
