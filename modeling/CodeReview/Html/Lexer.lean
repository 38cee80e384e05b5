import CodeReview.Html.Token

/-!
# CodeReview.Html.Lexer

From characters to tokens. The lexer is a machine that takes one character at a time;
each step gives the tokens that are complete with it.

Design points:

* The machine does not know elements. What the characters after a start tag mean is told
  to it from outside, by putting it into the state `text kind`.
* The text of tags is kept last character first while it is read, and put in order when
  the tag is complete (`Draft`).
* A null character is a replacement character everywhere but in the text of ordinary
  elements, where it is handed on.
* A tag that the text breaks off in is dropped; all other unfinished things at the end
  of the text are closed (`close`).
-/

namespace CodeReview.Html

/-- A tag being read. -/
structure Draft where
  isEnd : Bool
  /-- The name, last letter first. -/
  name : List Char
  /-- The attributes that are complete, last one first. -/
  attributes : Attributes := []
deriving DecidableEq, Repr

/-- A comment, where its last characters stand. -/
inductive CommentPart
  /-- Behind `<!--`. -/
  | start
  /-- Behind `<!---`. -/
  | startDash
  /-- In its text. -/
  | text
  /-- Behind a dash. -/
  | dash
  /-- Behind two dashes or more. -/
  | dashes
  /-- Behind two dashes and an exclamation mark. -/
  | bang
deriving DecidableEq, Repr

/-- Where the lexer stands. -/
inductive Lexer
  /-- In text. -/
  | text (kind : TextKind)
  /-- In a reference in text. -/
  | reference (kind : TextKind) (reference : Reference)
  /-- Behind a less-than sign. -/
  | less (kind : TextKind)
  /-- Behind `</`. -/
  | lessSlash (kind : TextKind)
  /-- In a name behind `</`, in text where only one end tag counts; last letter first. -/
  | endName (kind : TextKind) (letters : List Char)
  /-- In a name behind `<` in a hidden script, or behind `</` in a doubly hidden one, as
  `entering` says. -/
  | scriptName (entering : Bool) (letters : List Char)
  /-- In the name of a tag. -/
  | tagName (draft : Draft)
  /-- Before an attribute of a tag. -/
  | beforeAttribute (draft : Draft)
  /-- In the name of an attribute, last letter first. -/
  | attributeName (draft : Draft) (name : List Char)
  /-- Behind the name of an attribute and a blank. -/
  | afterAttributeName (draft : Draft) (name : List Char)
  /-- Behind the equals sign of an attribute. -/
  | beforeValue (draft : Draft) (name : List Char)
  /-- In a value between quotes, last character first. -/
  | quotedValue (draft : Draft) (name : List Char) (quote : Char) (value : List Char)
  /-- In a value without quotes, last character first. -/
  | bareValue (draft : Draft) (name : List Char) (value : List Char)
  /-- Behind the closing quote of a value. -/
  | afterValue (draft : Draft)
  /-- Behind a slash in a tag. -/
  | slash (draft : Draft)
  /-- In something that reads as a comment up to the next greater-than sign. -/
  | bogusComment
  /-- Behind `<!`, with the characters since, last one first. -/
  | declaration (letters : List Char)
  /-- In a comment. -/
  | comment (part : CommentPart)
  /-- In a document type declaration, with its text, last character first. -/
  | doctype (letters : List Char)
  /-- In a section of character data, behind as many closing brackets, at most two. -/
  | characterData (brackets : Nat)
deriving DecidableEq, Repr

namespace Lexer

/-- What a step gives: where the lexer stands then, and the complete tokens. -/
abbrev Result := Lexer × List Token

/-- Characters as tokens. -/
def chars (text : List Char) : List Token := text.map .char

/-- A null character is not shown. -/
def visible (c : Char) : Char := if c = '\x00' then replacementChar else c

/-! ### Tags -/

namespace Draft

/-- The tag with one more attribute, unless it has one of that name. -/
def add (draft : Draft) (name value : List Char) : Draft :=
  let name := String.ofList name.reverse
  if draft.attributes.any (·.1 == name) then draft
  else
    let value := String.ofList (Reference.decodeValue value.reverse)
    { draft with attributes := (name, value) :: draft.attributes }

/-- The token of a complete tag. -/
def token (draft : Draft) (selfClosing : Bool) : Token :=
  let name := String.ofList draft.name.reverse
  if draft.isEnd then .close name
  else .start { name, attributes := draft.attributes.reverse, selfClosing }

/-- The tag is complete; ordinary text follows until told otherwise. -/
def finish (draft : Draft) (selfClosing : Bool) : Result :=
  (.text .markup, [token draft selfClosing])

end Draft

/-- Letters of names are lower case. -/
def nameLetter (c : Char) : Char := (visible c).toLower

/-- A character before an attribute. -/
def stepBeforeAttribute (draft : Draft) (c : Char) : Result :=
  if isSpace c then (.beforeAttribute draft, [])
  else if c = '/' then (.slash draft, [])
  else if c = '>' then Draft.finish draft false
  else (.attributeName draft [nameLetter c], [])

/-- A character in the name of a tag. -/
def stepTagName (draft : Draft) (c : Char) : Result :=
  if isSpace c then (.beforeAttribute draft, [])
  else if c = '/' then (.slash draft, [])
  else if c = '>' then Draft.finish draft false
  else (.tagName { draft with name := nameLetter c :: draft.name }, [])

/-- A character in the name of an attribute. -/
def stepAttributeName (draft : Draft) (name : List Char) (c : Char) : Result :=
  if isSpace c then (.afterAttributeName draft name, [])
  else if c = '=' then (.beforeValue draft name, [])
  else if c = '/' then (.slash (Draft.add draft name []), [])
  else if c = '>' then Draft.finish (Draft.add draft name []) false
  else (.attributeName draft (nameLetter c :: name), [])

/-- A character behind the name of an attribute. -/
def stepAfterAttributeName (draft : Draft) (name : List Char) (c : Char) : Result :=
  if isSpace c then (.afterAttributeName draft name, [])
  else if c = '=' then (.beforeValue draft name, [])
  else if c = '/' then (.slash (Draft.add draft name []), [])
  else if c = '>' then Draft.finish (Draft.add draft name []) false
  else (.attributeName (Draft.add draft name []) [nameLetter c], [])

/-- A character in a value without quotes. -/
def stepBareValue (draft : Draft) (name value : List Char) (c : Char) : Result :=
  if isSpace c then (.beforeAttribute (Draft.add draft name value), [])
  else if c = '>' then Draft.finish (Draft.add draft name value) false
  else (.bareValue draft name (visible c :: value), [])

/-- A character before a value. -/
def stepBeforeValue (draft : Draft) (name : List Char) (c : Char) : Result :=
  if isSpace c then (.beforeValue draft name, [])
  else if c = '"' ∨ c = '\'' then (.quotedValue draft name c [], [])
  else if c = '>' then Draft.finish (Draft.add draft name []) false
  else stepBareValue draft name [] c

/-- A character in a value between quotes. -/
def stepQuotedValue (draft : Draft) (name : List Char) (quote : Char) (value : List Char)
    (c : Char) : Result :=
  if c = quote then (.afterValue (Draft.add draft name value), [])
  else (.quotedValue draft name quote (visible c :: value), [])

/-- A character behind a slash. -/
def stepSlash (draft : Draft) (c : Char) : Result :=
  if c = '>' then Draft.finish draft true else stepBeforeAttribute draft c

/-! ### Text -/

/-- A character of a script. -/
def stepScript (phase : ScriptPhase) (c : Char) : Result :=
  let dash (more : Nat → ScriptPhase) (dashes : Nat) : Result :=
    (.text (.script (more (min (dashes + 1) 2))), [.char c])
  let stay (phase : ScriptPhase) : Result := (.text (.script phase), [.char (visible c)])
  match phase with
  | .plain => if c = '<' then (.less (.script .plain), []) else stay .plain
  | .opening =>
    if c = '-' then (.text (.script .openingDash), [.char c])
    else if c = '<' then (.less (.script .plain), [])
    else stay .plain
  | .openingDash =>
    if c = '-' then (.text (.script (.hidden 2)), [.char c])
    else if c = '<' then (.less (.script .plain), [])
    else stay .plain
  | .hidden dashes =>
    if c = '-' then dash .hidden dashes
    else if c = '<' then (.less (.script (.hidden 0)), [])
    else if c = '>' ∧ dashes = 2 then stay .plain
    else stay (.hidden 0)
  | .doublyHidden dashes =>
    if c = '-' then dash .doublyHidden dashes
    else if c = '<' then (.less (.script (.doublyHidden 0)), [.char c])
    else if c = '>' ∧ dashes = 2 then stay .plain
    else stay (.doublyHidden 0)

/-- A character in text. -/
def stepText (kind : TextKind) (c : Char) : Result :=
  match kind with
  | .markup =>
    if c = '<' then (.less .markup, [])
    else if c = '&' then (.reference .markup .ampersand, [])
    else (.text .markup, [.char c])
  | .escapable element =>
    if c = '<' then (.less (.escapable element), [])
    else if c = '&' then (.reference (.escapable element) .ampersand, [])
    else (.text (.escapable element), [.char (visible c)])
  | .raw element =>
    if c = '<' then (.less (.raw element), []) else (.text (.raw element), [.char (visible c)])
  | .script phase => stepScript phase c
  | .plain => (.text .plain, [.char (visible c)])

/-- Gives tokens before those of a step. -/
def after (tokens : List Token) (result : Result) : Result := (result.1, tokens ++ result.2)

/-- A character in a reference. -/
def stepReference (kind : TextKind) (reference : Reference) (c : Char) : Result :=
  match reference.step false c with
  | .more longer => (.reference kind longer, [])
  | .done shown belongs lacksSemicolon =>
    let tokens := (if lacksSemicolon then [.fault] else []) ++ chars shown
    if belongs then (.text kind, tokens) else after tokens (stepText kind c)

/-- The element whose end tag counts in a text. -/
def closer : TextKind → String
  | .escapable element | .raw element => element
  | .script _ => "script"
  | .markup | .plain => ""

/-- A character behind a less-than sign. -/
def stepLess (kind : TextKind) (c : Char) : Result :=
  match kind with
  | .markup =>
    if c = '!' then (.declaration [], [])
    else if c = '/' then (.lessSlash .markup, [])
    else if c = '?' then (.bogusComment, [])
    else if c.isAlpha then (.tagName { isEnd := false, name := [c.toLower] }, [])
    else after [.char '<'] (stepText kind c)
  | .script .plain =>
    if c = '/' then (.lessSlash kind, [])
    else if c = '!' then (.text (.script .opening), chars ['<', '!'])
    else after [.char '<'] (stepText kind c)
  | .script (.hidden _) =>
    if c = '/' then (.lessSlash kind, [])
    else if c.isAlpha then (.scriptName true [c.toLower], chars ['<', c])
    else after [.char '<'] (stepText kind c)
  | .script (.doublyHidden _) =>
    if c = '/' then (.scriptName false [], [.char c]) else stepText kind c
  | _ => if c = '/' then (.lessSlash kind, []) else after [.char '<'] (stepText kind c)

/-- A character behind `</`. -/
def stepLessSlash (kind : TextKind) (c : Char) : Result :=
  match kind with
  | .markup =>
    if c.isAlpha then (.tagName { isEnd := true, name := [c.toLower] }, [])
    else if c = '>' then (.text .markup, [.fault])
    else (.bogusComment, [])
  | _ =>
    if c.isAlpha then (.endName kind [c], [])
    else after (chars ['<', '/']) (stepText kind c)

/-- A character in a name behind `</` in text where only one end tag counts. If it is
not that tag, it was text. -/
def stepEndName (kind : TextKind) (letters : List Char) (c : Char) : Result :=
  let name := letters.map Char.toLower
  let draft : Draft := { isEnd := true, name }
  if c.isAlpha then (.endName kind (c :: letters), [])
  else if name.reverse = (closer kind).toList ∧ (isSpace c ∨ c = '/' ∨ c = '>') then
    stepTagName draft c
  else after (chars ('<' :: '/' :: letters.reverse)) (stepText kind c)

/-- A character in a name that may begin or end the script inside a comment. -/
def stepScriptName (entering : Bool) (letters : List Char) (c : Char) : Result :=
  let outer := TextKind.script (.hidden 0)
  let inner := TextKind.script (.doublyHidden 0)
  let (found, otherwise) := if entering then (inner, outer) else (outer, inner)
  if c.isAlpha then (.scriptName entering (c.toLower :: letters), [.char c])
  else if isSpace c ∨ c = '/' ∨ c = '>' then
    (.text (if letters.reverse = "script".toList then found else otherwise), [.char c])
  else stepText otherwise c

/-! ### Declarations and comments -/

/-- A character behind `<!`: two dashes begin a comment, the word `doctype` a document
type declaration, and `[CDATA[` character data, where the current element is not one of
HTML. -/
def stepDeclaration (foreign : Bool) (letters : List Char) (c : Char) : Result :=
  let seen := (c :: letters).reverse
  let begins (word : String) (text : List Char) : Bool := text.isPrefixOf word.toList
  if seen = "--".toList then (.comment .start, [])
  else if seen.map Char.toLower = "doctype".toList then (.doctype [], [])
  else if foreign && seen = "[CDATA[".toList then (.characterData 0, [])
  else if begins "--" seen || begins "doctype" (seen.map Char.toLower) ||
      (foreign && begins "[CDATA[" seen) then
    (.declaration (c :: letters), [])
  else if c = '>' then (.text .markup, [.comment])
  else (.bogusComment, [])

/-- A character in a comment. -/
def stepComment (part : CommentPart) (c : Char) : Result :=
  let finish : Result := (.text .markup, [.comment])
  let inside (part : CommentPart) : Result := (.comment part, [])
  let text : Result := if c = '-' then inside .dash else inside .text
  match part with
  | .start => if c = '-' then inside .startDash else if c = '>' then finish else text
  | .startDash => if c = '-' then inside .dashes else if c = '>' then finish else text
  | .text => text
  | .dash => if c = '-' then inside .dashes else text
  | .dashes =>
    if c = '>' then finish else if c = '!' then inside .bang
    else if c = '-' then inside .dashes else text
  | .bang => if c = '>' then finish else text

/-- A character in character data. -/
def stepCharacterData (brackets : Nat) (c : Char) : Result :=
  if c = ']' then
    if brackets < 2 then (.characterData (brackets + 1), []) else (.characterData 2, [.char ']'])
  else if c = '>' ∧ brackets = 2 then (.text .markup, [])
  else (.characterData 0, chars (List.replicate brackets ']' ++ [c]))

/-! ### The machine -/

/-- Takes one character. Whether character data may begin depends on the current element:
`foreign` says that it is not one of HTML. -/
def step (foreign : Bool) (lexer : Lexer) (c : Char) : Result :=
  match lexer with
  | text kind => stepText kind c
  | reference kind ref => stepReference kind ref c
  | less kind => stepLess kind c
  | lessSlash kind => stepLessSlash kind c
  | endName kind letters => stepEndName kind letters c
  | scriptName entering letters => stepScriptName entering letters c
  | tagName draft => stepTagName draft c
  | beforeAttribute draft => stepBeforeAttribute draft c
  | attributeName draft name => stepAttributeName draft name c
  | afterAttributeName draft name => stepAfterAttributeName draft name c
  | beforeValue draft name => stepBeforeValue draft name c
  | quotedValue draft name quote value => stepQuotedValue draft name quote value c
  | bareValue draft name value => stepBareValue draft name value c
  | afterValue draft => stepBeforeAttribute draft c
  | slash draft => stepSlash draft c
  | bogusComment => if c = '>' then (.text .markup, [.comment]) else (.bogusComment, [])
  | declaration letters => stepDeclaration foreign letters c
  | comment part => stepComment part c
  | doctype letters =>
    if c = '>' then (.text .markup, [.doctype (.ofText letters.reverse)])
    else (.doctype (visible c :: letters), [])
  | characterData brackets => stepCharacterData brackets c

/-- The tokens that the end of the text completes, its own included. -/
def close (lexer : Lexer) : List Token :=
  let rest : List Token :=
    match lexer with
    | reference _ ref =>
      (if ref.isNumber then [.fault] else []) ++ chars (ref.textBefore false none)
    | less (.script (.doublyHidden _)) => []
    | less _ => [.char '<']
    | lessSlash _ => chars ['<', '/']
    | endName _ letters => chars ('<' :: '/' :: letters.reverse)
    | bogusComment | declaration _ | comment _ => [.comment]
    | doctype letters => [.doctype (.ofText letters.reverse)]
    | characterData brackets => chars (List.replicate brackets ']')
    | _ => []
  rest ++ [.eof]

end Lexer

end CodeReview.Html
