import CodeReview.Html.Builder.Outcome

/-!
# CodeReview.Html.Builder.Head

The rules from the start of a page to the start of its body. What a page leaves out, its
root, its head, the start of its body, is put in when something comes that has to stand
further inside.
-/

namespace CodeReview.Html.Builder

/-! ### Content of the head -/

/-- Elements of the head that hold nothing. -/
def emptyHeadNames : List String := ["base", "basefont", "bgsound", "link", "meta"]

/-- Elements that have their place in the head, wherever they stand. -/
def headNames : List String :=
  emptyHeadNames ++ ["noframes", "script", "style", "template", "title"]

/-- The start tag of an element that has its place in the head. -/
def startHeadContent (b : Builder) (tag : Tag) : Outcome :=
  if tag.name ∈ emptyHeadNames then (b.insertEmpty tag).done
  else if tag.name = "title" then b.readElement tag (.escapable tag.name)
  else if tag.name = "script" then b.readElement tag (.script .plain)
  else if tag.name = "template" then
    let b := (b.insert tag).addMarker.forbidFrames
    { b with mode := .inTemplate, templateModes := .inTemplate :: b.templateModes }.done
  else b.readElement tag (.raw tag.name)

/-! ### Before the head -/

/-- The end tags that have a meaning before the body; others are dropped there. -/
def earlyEnds : List String := ["head", "body", "html", "br"]

/-- The first thing of a page that is neither blank nor a declaration. A page without a
declaration is read in outdated mode. -/
def initialRule (b : Builder) : Token → Outcome
  | .char c =>
    if isPageSpace c then b.done else { b with outdated := true }.againIn .beforeHtml
  | _ => { b with outdated := true }.againIn .beforeHtml

/-- Before the root. -/
def beforeHtmlRule (b : Builder) (token : Token) : Outcome :=
  let otherwise := (b.insertRoot []).againIn .beforeHead
  match token with
  | .char c => if isPageSpace c then b.done else otherwise
  | .start tag =>
    if tag.name = "html" then ((b.insertRoot tag.attributes).into .beforeHead).done else otherwise
  | .close name => if name ∈ earlyEnds then otherwise else b.done
  | _ => otherwise

/-- Opens the head. -/
def insertHead (b : Builder) (tag : Tag) : Builder :=
  let (b, element) := b.insertIn .html tag
  { b with head := some element, mode := .inHead }

/-- Before the head. -/
def beforeHeadRule (b : Builder) (token : Token) : Outcome :=
  let otherwise : Outcome := ⟨b.insertHead { name := "head" }, .again⟩
  match token with
  | .char c => if isPageSpace c then b.done else otherwise
  | .start tag =>
    if tag.name = "html" then (b.mergeRoot tag).done
    else if tag.name = "head" then (b.insertHead tag).done
    else otherwise
  | .close name => if name ∈ earlyEnds then otherwise else b.done
  | _ => otherwise

/-! ### In and after the head -/

/-- In the head. -/
def inHeadRule (b : Builder) (token : Token) : Outcome :=
  let otherwise := b.pop.againIn .afterHead
  match token with
  | .char c => if isPageSpace c then (b.addText c).done else otherwise
  | .start tag =>
    if tag.name = "html" then (b.mergeRoot tag).done
    else if tag.name ∈ headNames ∨ tag.name = "noscript" then b.startHeadContent tag
    else if tag.name = "head" then b.done
    else otherwise
  | .close name =>
    if name = "head" then (b.pop.into .afterHead).done
    else if name = "template" then b.endTemplate
    else if name ∈ earlyEnds then otherwise
    else b.done
  | _ => otherwise

/-- An element of the head that comes after it is put into it all the same. -/
def startLateHeadContent (b : Builder) (tag : Tag) : Outcome :=
  match b.head with
  | none => b.startHeadContent tag
  | some head =>
    let outcome := (b.push head).startHeadContent tag
    { outcome with builder := outcome.builder.removeOpen head.id }

/-- Between the head and the body. -/
def afterHeadRule (b : Builder) (token : Token) : Outcome :=
  let otherwise := (b.insertImplied "body").againIn .inBody
  match token with
  | .char c => if isPageSpace c then (b.addText c).done else otherwise
  | .start tag =>
    if tag.name = "html" then (b.mergeRoot tag).done
    else if tag.name = "body" then ((b.insert tag).forbidFrames.into .inBody).done
    else if tag.name = "frameset" then ((b.insert tag).into .inFrameset).done
    else if tag.name ∈ headNames then b.startLateHeadContent tag
    else if tag.name = "head" then b.done
    else otherwise
  | .close name =>
    if name = "template" then b.endTemplate
    else if name ∈ ["body", "html", "br"] then otherwise
    else b.done
  | _ => otherwise

end CodeReview.Html.Builder
