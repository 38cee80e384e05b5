import CodeReview.Html.Doctype

/-!
# CodeReview.Html.Token

The tokens of an HTML text: tags, characters, and what stands between them.

Comments keep no text: what a comment says has no meaning, only that it stands between
what is before it and what is behind it.
-/

namespace CodeReview.Html

/-- The attributes of an element, in order, each name once. -/
abbrev Attributes := List (String × String)

/-- A start tag. -/
structure Tag where
  name : String
  attributes : Attributes := []
  /-- The tag ends with a slash. -/
  selfClosing : Bool := false
deriving DecidableEq, Repr, Inhabited

/-- A token. -/
inductive Token
  | start (tag : Tag)
  | close (name : String)
  | char (c : Char)
  | comment
  | doctype (doctype : Doctype)
  /-- A fault in the text that stands for nothing, but separates what is around it. -/
  | fault
  /-- The end of the text. -/
  | eof
deriving DecidableEq, Repr

/-- How far a script has come with hiding its text behind a comment, the way scripts
were once hidden from programs that did not know them. -/
inductive ScriptPhase
  /-- Outside every comment. -/
  | plain
  /-- Behind `<!`. -/
  | opening
  /-- Behind `<!-`. -/
  | openingDash
  /-- In a comment, behind as many dashes, two standing for more. -/
  | hidden (dashes : Nat)
  /-- In a script inside a comment, behind as many dashes. -/
  | doublyHidden (dashes : Nat)
deriving DecidableEq, Repr

/-- What the characters of an element mean. In all kinds but the first, only an end tag
of the element itself is a tag. -/
inductive TextKind
  /-- Text, tags and references. -/
  | markup
  /-- Text and references. -/
  | escapable (element : String)
  /-- Text only. -/
  | raw (element : String)
  /-- The text of a script. -/
  | script (phase : ScriptPhase)
  /-- Text to the end of the document. -/
  | plain
deriving DecidableEq, Repr

end CodeReview.Html
