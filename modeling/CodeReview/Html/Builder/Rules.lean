import CodeReview.Html.Builder.Table

/-!
# CodeReview.Html.Builder.Rules

The rules for templates, for the end of a page and for frames, the rules for elements of
other vocabularies, and the choice among all rules (`Builder.process`).
-/

namespace CodeReview.Html.Builder

/-! ### Templates -/

/-- Goes on in another mode with the content of the template. -/
def templateAs (b : Builder) (mode : Mode) : Outcome :=
  { b with templateModes := mode :: b.templateModes.drop 1 }.againIn mode

/-- At the start of a template. What comes first decides how the content is read. -/
def templateRule (b : Builder) (token : Token) : Outcome :=
  match token with
  | .char _ => b.bodyRule token
  | .start tag =>
    let name := tag.name
    if name ∈ headNames then b.startHeadContent tag
    else if name ∈ ["caption", "colgroup", "tbody", "tfoot", "thead"] then b.templateAs .inTable
    else if name = "col" then b.templateAs .inColumnGroup
    else if name = "tr" then b.templateAs .inTableBody
    else if name ∈ ["td", "th"] then b.templateAs .inRow
    else b.templateAs .inBody
  | .close name => if name = "template" then b.endTemplate else b.done
  | .eof => b.endOfText
  | _ => b.done

/-! ### The end of a page -/

/-- Behind the body. -/
def afterBodyRule (b : Builder) (token : Token) : Outcome :=
  let otherwise := b.againIn .inBody
  match token with
  | .char c => if isPageSpace c then b.bodyRule token else otherwise
  | .start tag => if tag.name = "html" then b.bodyRule token else otherwise
  | .close name =>
    if name = "html" then (if b.isPiece then b else b.into .afterAfterBody).done else otherwise
  | _ => b.done

/-- Behind the page. -/
def afterAfterBodyRule (b : Builder) (token : Token) : Outcome :=
  match token with
  | .char c => if isPageSpace c then b.bodyRule token else b.againIn .inBody
  | .start tag => if tag.name = "html" then b.bodyRule token else b.againIn .inBody
  | .close _ => b.againIn .inBody
  | _ => b.done

/-! ### Frames -/

/-- In a frame set. -/
def framesetRule (b : Builder) : Token → Outcome
  | .char c => (if isPageSpace c then b.addText c else b).done
  | .start tag =>
    if tag.name = "html" then (b.mergeRoot tag).done
    else if tag.name = "frameset" then (b.insert tag).done
    else if tag.name = "frame" then (b.insertEmpty tag).done
    else if tag.name = "noframes" then b.startHeadContent tag
    else b.done
  | .close name =>
    if name = "frameset" ∧ 1 < b.stack.length then
      let b := b.pop
      (if !b.isPiece && !b.currentNamed "frameset" then b.into .afterFrameset else b).done
    else b.done
  | _ => b.done

/-- Behind the frame set. -/
def afterFramesetRule (b : Builder) : Token → Outcome
  | .char c => (if isPageSpace c then b.addText c else b).done
  | .start tag =>
    if tag.name = "html" then (b.mergeRoot tag).done
    else if tag.name = "noframes" then b.startHeadContent tag
    else b.done
  | .close name => (if name = "html" then b.into .afterAfterFrameset else b).done
  | _ => b.done

/-- Behind a page of frames. -/
def afterAfterFramesetRule (b : Builder) (token : Token) : Outcome :=
  match token with
  | .char c => if isPageSpace c then b.bodyRule token else b.done
  | .start tag =>
    if tag.name = "html" then b.bodyRule token
    else if tag.name = "noframes" then b.startHeadContent tag
    else b.done
  | _ => b.done

/-! ### All modes -/

/-- The rule of a mode. -/
def modeRule (b : Builder) (token : Token) : Outcome :=
  match b.mode with
  | .initial => b.initialRule token
  | .beforeHtml => b.beforeHtmlRule token
  | .beforeHead => b.beforeHeadRule token
  | .inHead => b.inHeadRule token
  | .afterHead => b.afterHeadRule token
  | .inBody => b.bodyRule token
  | .inText => b.textRule token
  | .inTable => b.tableRule token
  | .inTableText => b.tableTextRule token
  | .inCaption => b.captionRule token
  | .inColumnGroup => b.columnGroupRule token
  | .inTableBody => b.tableBodyRule token
  | .inRow => b.rowRule token
  | .inCell => b.cellRule token
  | .inSelect => b.selectRule token
  | .inSelectInTable => b.selectInTableRule token
  | .inTemplate => b.templateRule token
  | .afterBody => b.afterBodyRule token
  | .inFrameset => b.framesetRule token
  | .afterFrameset => b.afterFramesetRule token
  | .afterAfterBody => b.afterAfterBodyRule token
  | .afterAfterFrameset => b.afterAfterFramesetRule token

/-! ### Other vocabularies -/

/-- The innermost open element is not one of HTML. -/
def inForeign (b : Builder) : Bool := b.currentIs (·.space != .html)

/-- The token follows the rules for other vocabularies. Characters and start tags in an
element that holds HTML do not, with a few exceptions. -/
def isForeign (b : Builder) (token : Token) : Bool :=
  match b.stack with
  | [] => false
  | current :: _ =>
    if current.space == .html then false
    else
      match token with
      | .eof => false
      | .char _ => !(current.isMathText || current.isSvgPoint)
      | .start tag =>
        if current.isMathText then tag.name ∈ ["mglyph", "malignmark"]
        else if current.isSvgPoint then false
        else !(current.space == .mathml && current.name == "annotation-xml" && tag.name == "svg")
      | _ => true

/-- Elements of HTML whose start tags end the content in another vocabulary. -/
def breakoutNames : List String := [
  "b", "big", "blockquote", "body", "br", "center", "code", "dd", "div", "dl", "dt", "em",
  "embed", "h1", "h2", "h3", "h4", "h5", "h6", "head", "hr", "i", "img", "li", "listing",
  "menu", "meta", "nobr", "ol", "p", "pre", "ruby", "s", "small", "span", "strong", "strike",
  "sub", "sup", "table", "tt", "u", "ul", "var"]

/-- The token ends the content in another vocabulary. -/
def breaksOut : Token → Bool
  | .start tag =>
    breakoutNames.contains tag.name ||
      (tag.name == "font" && tag.attributes.any fun (name, _) =>
        ["color", "face", "size"].contains name)
  | .close name => name == "br" || name == "p"
  | _ => false

/-- Leaves the elements of another vocabulary, up to one that may hold HTML. -/
def leaveForeign (b : Builder) : Builder :=
  b.popTo fun element => element.space == .html || element.isMathText || element.isSvgPoint

/-- An element in the vocabulary of the current one. -/
def insertAlike (b : Builder) (tag : Tag) : Builder :=
  b.insertForeign ((b.stack.head?.map (·.space)).getD .html) tag

/-- An end tag in another vocabulary, given the open elements from one on outwards: closes
the first with the name, but from the first one of HTML on the rules of HTML hold. The
outermost element is never closed. -/
def foreignClose (b : Builder) (name : String) (isFirst : Bool) : List OpenElement → Outcome
  | [] | [_] => b.done
  | element :: outer =>
    if !isFirst && element.space == .html then b.modeRule (.close name)
    else if element.name == name then { b with stack := outer }.done
    else b.foreignClose name false outer

/-- The rule for other vocabularies. -/
def foreignRule (b : Builder) (token : Token) : Outcome :=
  if breaksOut token then b.leaveForeign.modeRule token
  else
    match token with
    | .char c =>
      if c = '\x00' then (b.addText replacementChar).done
      else (if isPageSpace c then b.addText c else (b.addText c).forbidFrames).done
    | .start tag => (b.insertAlike tag).done
    | .close name => b.foreignClose name true b.stack
    | _ => b.done

/-! ### The choice -/

/-- The rule for a token. -/
def rule (b : Builder) (token : Token) : Outcome :=
  if b.isForeign token then b.foreignRule token else b.modeRule token

/-- Applies rules until the token is done; gives the kind of the characters that follow,
if it changes. -/
def applyRules (b : Builder) (token : Token) : Nat → Builder × Option TextKind
  | 0 => (b, none)
  | rounds + 1 =>
    match b.rule token with
    | ⟨b, .done⟩ => (b, none)
    | ⟨b, .again⟩ => b.applyRules token rounds
    | ⟨b, .read kind⟩ => (b, some kind)

/-- Rounds that suffice for a token: each closes an element or changes the mode, and no
more than a few modes follow one another without closing any. -/
def enoughRounds (b : Builder) : Nat := 4 * b.stack.length + 32

/-- A declaration counts at the start of a page only. -/
def declare (b : Builder) (doctype : Doctype) : Builder :=
  if b.mode = .initial then { b with outdated := doctype.isOutdated, mode := .beforeHtml } else b

/-- The place for a comment. Outside the body it belongs to the root, and outside the
root to the page. -/
def commentTarget (b : Builder) : Target :=
  match b.mode, b.root? with
  | .initial, _ | .beforeHtml, _ | .afterAfterBody, _ | .afterAfterFrameset, _ =>
    .inside Arena.document
  | .afterBody, some root => .inside root.id
  | _, _ => b.here

/-- A comment. It ends the text of a table. -/
def commentRule (b : Builder) : Builder :=
  let b := if b.mode = .inTableText then b.flushTableText else b
  b.addComment b.commentTarget

/-- Adds a token to the tree; gives the kind of the characters that follow, if it
changes. -/
def process (b : Builder) (token : Token) : Builder × Option TextKind :=
  let skips := b.skipsNewline
  let b := { b with skipsNewline := false }
  match token with
  | .fault => (b, none)
  | .doctype doctype => (b.declare doctype, none)
  | .comment => (b.commentRule, none)
  | .char c =>
    if skips && c == '\n' then (b, none) else b.applyRules token b.enoughRounds
  | _ => b.applyRules token b.enoughRounds

/-- A token that its rule is done with is looked at once. -/
theorem applyRules_of_done {b after : Builder} {token : Token} (h : b.rule token = after.done) :
    b.applyRules token b.enoughRounds = (after, none) := by
  rw [enoughRounds, applyRules, h]
  rfl

/-- A builder that keeps newlines need not take note of that. -/
theorem keep_eq {b : Builder} (h : b.skipsNewline = false) :
    { b with skipsNewline := false } = b := by
  rw [← h]

theorem process_char_of_done {b after : Builder} {c : Char} (hkeeps : b.skipsNewline = false)
    (h : b.rule (.char c) = after.done) : b.process (.char c) = (after, none) := by
  rw [process, keep_eq hkeeps, hkeeps, Bool.false_and]
  exact applyRules_of_done h

/-! ### Beginnings -/

/-- Before a page. -/
def forPage : Builder := {}

/-- Before a piece of the body of a page. -/
def forPiece : Builder :=
  ({ isPiece := true : Builder }.insertRoot []).into .inBody

end CodeReview.Html.Builder
