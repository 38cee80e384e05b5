import CodeReview.Html.Builder.Rules
import CodeReview.Html.Lexer
import CodeReview.Text.ByteOrderMark

/-!
# CodeReview.Html.Parser

From HTML text to pages. Lexer and builder run side by side: the lexer takes one
character at a time, the builder the tokens that are complete with it, and the builder
tells the lexer what the characters after certain tags mean. Reading a text is a fold
over its characters, so a text can be read in parts (`Parser.run_append`).

Reading begins at the start of the text and again behind each script, which a reader that
runs scripts would run there. Where reading begins, a byte order mark is dropped. Every
end of a line becomes a newline.
-/

namespace CodeReview.Html

/-- A page being read. -/
structure Parser where
  lexer : Lexer := .text .markup
  builder : Builder
  /-- Reading begins here: a byte order mark that comes next is dropped. -/
  begins : Bool := true
deriving Repr

/-- The text with a newline at the end of every line. -/
def normalizeNewlines : List Char → List Char
  | [] => []
  | '\r' :: '\n' :: text => '\n' :: normalizeNewlines text
  | '\r' :: text => '\n' :: normalizeNewlines text
  | c :: text => c :: normalizeNewlines text

theorem normalizeNewlines_cons {c : Char} (hc : c ≠ '\r') (text : List Char) :
    normalizeNewlines (c :: text) = c :: normalizeNewlines text :=
  normalizeNewlines.eq_4 c text (fun _ h => absurd h hc) hc

theorem normalizeNewlines_carriageReturn {text : List Char} (h : text.head? ≠ some '\n') :
    normalizeNewlines ('\r' :: text) = '\n' :: normalizeNewlines text := by
  refine normalizeNewlines.eq_3 text fun rest hrest => h ?_
  rw [hrest]
  rfl

/-- Ends of lines are changed in two parts as in both together, if the second does not begin in
the middle of one. -/
theorem normalizeNewlines_append {second : List Char} (h : second.head? ≠ some '\n')
    (first : List Char) :
    normalizeNewlines (first ++ second) = normalizeNewlines first ++ normalizeNewlines second := by
  fun_induction normalizeNewlines first with
  | case1 => rfl
  | case2 text ih => exact congrArg ('\n' :: ·) ih
  | case3 text hnext ih =>
    have hhead : (text ++ second).head? ≠ some '\n' := by
      cases text with
      | nil => exact h
      | cons c text =>
        rintro ⟨⟩
        exact hnext text rfl
    rw [List.cons_append, normalizeNewlines_carriageReturn hhead, ih, List.cons_append]
  | case4 c text hpair hreturn ih =>
    rw [List.cons_append, normalizeNewlines_cons hreturn, ih, List.cons_append]

/-- A text without carriage returns stays as it is, whatever stands behind it. -/
theorem normalizeNewlines_append_of_notMem {first : List Char} (h : '\r' ∉ first)
    (second : List Char) :
    normalizeNewlines (first ++ second) = first ++ normalizeNewlines second := by
  induction first with
  | nil => rfl
  | cons c first ih =>
    rw [List.mem_cons, not_or] at h
    rw [List.cons_append, normalizeNewlines_cons (Ne.symm h.1), ih h.2, List.cons_append]

theorem normalizeNewlines_of_notMem {text : List Char} (h : '\r' ∉ text) :
    normalizeNewlines text = text := by
  have happend := normalizeNewlines_append_of_notMem h []
  rwa [List.append_nil, normalizeNewlines, List.append_nil] at happend

theorem mem_of_mem_normalizeNewlines {text : List Char} {c : Char}
    (h : c ∈ normalizeNewlines text) : c ∈ text ∨ c = '\n' := by
  fun_induction normalizeNewlines text with
  | case1 => cases h
  | case2 text ih =>
    obtain rfl | h := List.mem_cons.mp h
    · exact .inr rfl
    · exact (ih h).imp_left fun h => .tail _ (.tail _ h)
  | case3 text hnext ih =>
    obtain rfl | h := List.mem_cons.mp h
    · exact .inr rfl
    · exact (ih h).imp_left (.tail _)
  | case4 d text hpair hreturn ih =>
    obtain rfl | h := List.mem_cons.mp h
    · exact .inl (.head _)
    · exact (ih h).imp_left (.tail _)

namespace Parser

/-- The token is the end of a script of HTML, the only end tag that counts in its text. -/
def endsScript (builder : Builder) (token : Token) : Bool :=
  builder.mode == .inText && token == .close "script"

/-- Takes one token. -/
def take (parser : Parser) (token : Token) : Parser :=
  let begins := endsScript parser.builder token
  match parser.builder.process token with
  | (builder, none) => { parser with builder, begins }
  | (builder, some kind) => ⟨.text kind, builder, begins⟩

/-- Takes one character. -/
def step (parser : Parser) (c : Char) : Parser :=
  if parser.begins && c == Text.byteOrderMark then { parser with begins := false }
  else
    let (lexer, tokens) := parser.lexer.step parser.builder.inForeign c
    tokens.foldl take { parser with lexer, begins := false }

/-- Takes the characters of a text. -/
def run (parser : Parser) (text : List Char) : Parser := text.foldl step parser

@[simp] theorem run_nil (parser : Parser) : parser.run [] = parser := rfl

@[simp] theorem run_cons (parser : Parser) (c : Char) (text : List Char) :
    parser.run (c :: text) = (parser.step c).run text := rfl

/-- A text may be read in parts. -/
theorem run_append (parser : Parser) (first second : List Char) :
    parser.run (first ++ second) = (parser.run first).run second := by
  simp [run, List.foldl_append]

/-- The end of the text. -/
def finish (parser : Parser) : Builder := (parser.lexer.close.foldl take parser).builder

end Parser

/-- What a builder has made of a text. -/
def Builder.read (builder : Builder) (text : String) : Builder :=
  (({ builder } : Parser).run (normalizeNewlines text.toList)).finish

/-- Reads a page. -/
def Page.ofText (text : String) : Page Nat := (Builder.forPage.read text).arena.page

/-- Reads a piece of the body of a page. Its elements are those inside its root. -/
def Page.ofPiece (text : String) : Page Nat :=
  let builder := Builder.forPiece.read text
  let page := builder.arena.page
  { page with elements := (builder.root?.map (page.inner ·.id)).getD [] }

end CodeReview.Html
