import CodeReview.Html.Builder.Head

/-!
# CodeReview.Html.Builder.Body

The rules for the body of a page.
-/

namespace CodeReview.Html.Builder

open OpenElement (boundsScope boundsItems)

/-! ### Text -/

/-- A character in the body. -/
def bodyChar (b : Builder) (c : Char) : Builder :=
  if c = '\x00' then b
  else
    let b := b.reopenFormatting.addText c
    if isPageSpace c then b else b.forbidFrames

/-! ### Start tags -/

/-- Elements that end a paragraph and may hold anything. -/
def blockNames : List String := [
  "address", "article", "aside", "blockquote", "center", "details", "dialog", "dir", "div",
  "dl", "fieldset", "figcaption", "figure", "footer", "header", "hgroup", "main", "menu",
  "nav", "ol", "p", "search", "section", "summary", "ul"]

/-- Headings. -/
def headingNames : List String := ["h1", "h2", "h3", "h4", "h5", "h6"]

/-- Formatting elements that follow the general rules. -/
def formattingNames : List String := [
  "b", "big", "code", "em", "font", "i", "s", "small", "strike", "strong", "tt", "u"]

/-- Elements that formatting does not reach into. -/
def enclosedNames : List String := ["applet", "marquee", "object"]

/-- Parts of other structures, which mean nothing by themselves. -/
def strayNames : List String := [
  "caption", "col", "colgroup", "frame", "head", "tbody", "td", "tfoot", "th", "thead", "tr"]

/-- The tag is for input that is not shown. -/
def isHidden (tag : Tag) : Bool :=
  match tag.attributes.lookup "type" with
  | some type => type.toList.map Char.toLower == "hidden".toList
  | none => false

/-- The innermost open element of the names that a new item closes, unless an element
that bounds items comes first. -/
def itemToClose? (names : List String) : List OpenElement → Option String
  | [] => none
  | element :: outer =>
    if element.isIn names then some element.name
    else if element.isSpecial && !element.isIn ["address", "div", "p"] then none
    else itemToClose? names outer

/-- Closes an element and what may be left open in it. -/
def closeNamed (b : Builder) (name : String) : Builder :=
  (b.closeImpliedBut name).popThroughNamed name

/-- The start tag of an item, which closes an item of the names. -/
def startItem (b : Builder) (tag : Tag) (names : List String) : Builder :=
  let b := b.forbidFrames
  let b := match itemToClose? names b.stack with
    | some name => b.closeNamed name
    | none => b
  b.closeOpenParagraph.insert tag

/-- The start tag of a link. A link that is still active is closed by force. -/
def startLink (b : Builder) (tag : Tag) : Builder :=
  let open? := b.recentFormatting.findSome? fun
    | .element id other => if other.name = "a" then some id else none
    | .marker => none
  let b := match open? with
    | some id => ((b.closeFormatting "a").dropFormatting id).removeOpen id
    | none => b
  b.reopenFormatting.insertFormatting tag

/-- The start tag of a frame set: it takes the place of the body, as long as that holds
nothing that counts. -/
def startFrames (b : Builder) (tag : Tag) : Builder :=
  match b.body? with
  | some body =>
    if b.framesAllowed then
      let b := b.onArena (·.detach body.id)
      let b := { b with stack := b.stack.drop (b.stack.length - 1) }
      (b.insert tag).into .inFrameset
    else b
  | none => b

/-- The start tag of a selection. -/
def startSelect (b : Builder) (tag : Tag) : Builder :=
  let mode := if b.mode ∈ [.inTable, .inCaption, .inTableBody, .inRow, .inCell] then
    Mode.inSelectInTable else .inSelect
  (b.reopenFormatting.insert tag).forbidFrames.into mode

/-- A start tag in the body that stands in a line of text. -/
def startInline (b : Builder) (tag : Tag) : Outcome :=
  let name := tag.name
  if name = "a" then (b.startLink tag).done
  else if name ∈ formattingNames then (b.reopenFormatting.insertFormatting tag).done
  else if name = "nobr" then
    let b := b.reopenFormatting
    let b := if b.namedInScope boundsScope "nobr" then (b.closeFormatting "nobr").reopenFormatting
      else b
    (b.insertFormatting tag).done
  else if name = "button" then
    let b := if b.namedInScope boundsScope "button" then b.closeImplied.popThroughNamed "button"
      else b
    (b.reopenFormatting.insert tag).forbidFrames.done
  else if name ∈ enclosedNames then (b.reopenFormatting.insert tag).addMarker.forbidFrames.done
  else if name ∈ ["area", "br", "embed", "img", "keygen", "wbr"] then
    (b.reopenFormatting.insertEmpty tag).forbidFrames.done
  else if name = "image" then
    (b.reopenFormatting.insertEmpty { tag with name := "img" }).forbidFrames.done
  else if name = "input" then
    let b := b.reopenFormatting.insertEmpty tag
    (if isHidden tag then b else b.forbidFrames).done
  else if name ∈ ["param", "source", "track"] then (b.insertEmpty tag).done
  else if name = "textarea" then
    { b.forbidFrames with skipsNewline := true }.readElement tag (.escapable name)
  else if name = "xmp" then
    b.closeOpenParagraph.reopenFormatting.forbidFrames.readElement tag (.raw name)
  else if name = "iframe" then b.forbidFrames.readElement tag (.raw name)
  else if name ∈ ["noembed", "noscript"] then b.readElement tag (.raw name)
  else if name = "select" then (b.startSelect tag).done
  else if name ∈ ["optgroup", "option"] then
    let b := if b.currentNamed "option" then b.pop else b
    (b.reopenFormatting.insert tag).done
  else if name ∈ ["rb", "rtc"] then
    let b := if b.namedInScope boundsScope "ruby" then b.closeImplied else b
    (b.insert tag).done
  else if name ∈ ["rp", "rt"] then
    let b := if b.namedInScope boundsScope "ruby" then b.closeImpliedBut "rtc" else b
    (b.insert tag).done
  else if name = "math" then (b.insertForeign .mathml tag).done
  else if name = "svg" then (b.insertForeign .svg tag).done
  else (b.reopenFormatting.insert tag).done

/-- A start tag in the body. -/
def bodyStart (b : Builder) (tag : Tag) : Outcome :=
  let name := tag.name
  if name = "html" then (b.mergeRoot tag).done
  else if name ∈ headNames then b.startHeadContent tag
  else if name = "body" then
    match b.body? with
    | some body =>
      if b.hasOpen "template" then b.done
      else (b.forbidFrames.addAttributes body.id tag.attributes).done
    | none => b.done
  else if name = "frameset" then (b.startFrames tag).done
  else if name ∈ blockNames then (b.closeOpenParagraph.insert tag).done
  else if name ∈ headingNames then
    let b := b.closeOpenParagraph
    let b := if b.currentIs OpenElement.isHeading then b.pop else b
    (b.insert tag).done
  else if name ∈ ["pre", "listing"] then
    let b := (b.closeOpenParagraph.insert tag).forbidFrames
    { b with skipsNewline := true }.done
  else if name = "form" then
    let inTemplate := b.hasOpen "template"
    if b.form.isSome && !inTemplate then b.done
    else
      let (b, element) := b.closeOpenParagraph.insertIn .html tag
      (if inTemplate then b else { b with form := some element.id }).done
  else if name = "li" then (b.startItem tag ["li"]).done
  else if name ∈ ["dd", "dt"] then (b.startItem tag ["dd", "dt"]).done
  else if name = "plaintext" then ⟨b.closeOpenParagraph.insert tag, .read .plain⟩
  else if name = "table" then
    let b := if b.outdated then b else b.closeOpenParagraph
    ((b.insert tag).forbidFrames.into .inTable).done
  else if name = "hr" then (b.closeOpenParagraph.insertEmpty tag).forbidFrames.done
  else if name ∈ strayNames then b.done
  else b.startInline tag

/-! ### End tags -/

/-- Elements whose end tag closes the innermost of them in scope. -/
def closingNames : List String := [
  "address", "article", "aside", "blockquote", "button", "center", "details", "dialog", "dir",
  "div", "dl", "fieldset", "figcaption", "figure", "footer", "header", "hgroup", "listing",
  "main", "menu", "nav", "ol", "pre", "search", "section", "summary", "ul"]

/-- The end tag of a form. Outside templates the form that is open is meant, and elements
inside it stay open. -/
def endForm (b : Builder) : Builder :=
  if b.hasOpen "template" then
    if b.namedInScope boundsScope "form" then b.closeImplied.popThroughNamed "form" else b
  else
    match b.form with
    | none => b
    | some form =>
      let b := { b with form := none }
      if b.inScope boundsScope (·.id == form) then b.closeImplied.removeOpen form else b

/-- An end tag in the body. -/
def bodyClose (b : Builder) (name : String) : Outcome :=
  if name = "template" then b.endTemplate
  else if name = "body" then
    if b.namedInScope boundsScope "body" then (b.into .afterBody).done else b.done
  else if name = "html" then
    if b.namedInScope boundsScope "body" then b.againIn .afterBody else b.done
  else if name ∈ closingNames then
    (if b.namedInScope boundsScope name then b.closeImplied.popThroughNamed name else b).done
  else if name = "form" then b.endForm.done
  else if name = "p" then
    let b := if b.namedInScope OpenElement.boundsParagraphs "p" then b else b.insertImplied "p"
    b.closeParagraph.done
  else if name = "li" then
    (if b.namedInScope boundsItems name then b.closeNamed name else b).done
  else if name ∈ ["dd", "dt"] then
    (if b.namedInScope boundsScope name then b.closeNamed name else b).done
  else if name ∈ headingNames then
    (if b.inScope boundsScope OpenElement.isHeading then
      b.closeImplied.popThrough OpenElement.isHeading else b).done
  else if name ∈ "a" :: "nobr" :: formattingNames then (b.closeFormatting name).done
  else if name ∈ enclosedNames then
    (if b.namedInScope boundsScope name then (b.closeImplied.popThroughNamed name).dropToMarker
      else b).done
  else if name = "br" then (b.reopenFormatting.insertEmpty { name }).forbidFrames.done
  else (b.closeOrdinary name).done

/-! ### The rule -/

/-- In the body. -/
def bodyRule (b : Builder) : Token → Outcome
  | .char c => (b.bodyChar c).done
  | .start tag => b.bodyStart tag
  | .close name => b.bodyClose name
  | .eof => b.endOfText
  | _ => b.done

/-- In the text of an element that is read in a special way. -/
def textRule (b : Builder) : Token → Outcome
  | .char c => (b.addText c).done
  | .close _ => (b.pop.into b.outerMode).done
  | .eof => b.pop.againIn b.outerMode
  | _ => b.done

end CodeReview.Html.Builder
