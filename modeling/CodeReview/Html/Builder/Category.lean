import CodeReview.Html.Builder

/-!
# CodeReview.Html.Builder.Category

The classes of elements that the rules for building trees speak of.
-/

namespace CodeReview.Html

namespace OpenElement

/-! ### Scopes -/

/-- An element of MathML that holds text of HTML. -/
def isMathText (element : OpenElement) : Bool :=
  element.space == .mathml && ["mi", "mo", "mn", "ms", "mtext"].contains element.name

/-- An element of SVG that holds HTML. -/
def isSvgPoint (element : OpenElement) : Bool :=
  element.space == .svg && ["foreignobject", "desc", "title"].contains element.name

/-- Bounds the scope of most elements. -/
def boundsScope (element : OpenElement) : Bool :=
  element.isIn ["applet", "caption", "html", "table", "td", "th", "marquee", "object", "template"]
    || element.isMathText || element.isSvgPoint

/-- Bounds the scope of the items of lists. -/
def boundsItems (element : OpenElement) : Bool :=
  element.boundsScope || element.isIn ["ol", "ul"]

/-- Bounds the scope of paragraphs. -/
def boundsParagraphs (element : OpenElement) : Bool :=
  element.boundsScope || element.isNamed "button"

/-- Bounds the scope of the parts of tables. -/
def boundsTable (element : OpenElement) : Bool := element.isIn ["html", "table", "template"]

/-- Bounds the scope of the parts of selections. -/
def boundsSelect (element : OpenElement) : Bool := !element.isIn ["optgroup", "option"]

/-! ### Contexts -/

/-- Holds the rows of a table. -/
def holdsRows (element : OpenElement) : Bool :=
  element.isIn ["tbody", "tfoot", "thead", "template", "html"]

/-- Holds the cells of a row. -/
def holdsCells (element : OpenElement) : Bool := element.isIn ["tr", "template", "html"]

/-- A cell of a table. -/
def isCell (element : OpenElement) : Bool := element.isIn ["td", "th"]

/-- A heading. -/
def isHeading (element : OpenElement) : Bool :=
  element.isIn ["h1", "h2", "h3", "h4", "h5", "h6"]

/-- Elements that formatting does not run through without being repaired, and that stray
end tags do not close. -/
def isSpecial (element : OpenElement) : Bool :=
  element.isIn [
    "address", "applet", "area", "article", "aside", "base", "basefont", "bgsound",
    "blockquote", "body", "br", "button", "caption", "center", "col", "colgroup", "dd",
    "details", "dir", "div", "dl", "dt", "embed", "fieldset", "figcaption", "figure", "footer",
    "form", "frame", "frameset", "h1", "h2", "h3", "h4", "h5", "h6", "head", "header", "hgroup",
    "hr", "html", "iframe", "img", "input", "isindex", "li", "link", "listing", "main",
    "marquee", "menu", "meta", "nav", "noembed", "noframes", "noscript", "object", "ol", "p",
    "param", "plaintext", "pre", "script", "section", "select", "source", "style", "summary",
    "table", "tbody", "td", "template", "textarea", "tfoot", "th", "thead", "title", "tr",
    "track", "ul", "wbr", "xmp"]

end OpenElement

/-! ### Implied end tags -/

/-- Elements whose end tags may be left out nearly everywhere. -/
def impliedEnds : List String :=
  ["dd", "dt", "li", "option", "optgroup", "p", "rb", "rp", "rt", "rtc"]

/-- Elements whose end tags may be left out at the end of a template. -/
def impliedEndsInTemplate : List String :=
  impliedEnds ++ ["caption", "colgroup", "tbody", "td", "tfoot", "th", "thead", "tr"]

namespace Builder

/-- Closes elements whose end tags may be left out. -/
def closeImplied (b : Builder) : Builder := b.popTo (!·.isIn impliedEnds)

/-- Closes elements whose end tags may be left out, but none with the name. -/
def closeImpliedBut (b : Builder) (name : String) : Builder :=
  b.popTo fun element => !(element.isIn impliedEnds && !element.isNamed name)

/-- Closes the paragraph. -/
def closeParagraph (b : Builder) : Builder := (b.closeImpliedBut "p").popThroughNamed "p"

/-- Closes the paragraph if one is in scope. -/
def closeOpenParagraph (b : Builder) : Builder :=
  if b.namedInScope OpenElement.boundsParagraphs "p" then b.closeParagraph else b

end Builder

end CodeReview.Html
