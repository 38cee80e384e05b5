import CodeReview.Proofs.Html.Growing
import CodeReview.Proofs.Suggestion.Rows

/-!
# CodeReview.Proofs.Suggestion.Table

The table of a suggested change is read as it is meant. What stands before the rows opens the
elements around them (`around`), and each row adds one element to the innermost of these
(`run_row`): its cells are opened and closed again, and the text of a cell gathers in it. What is
read of the whole body is one tree, with an element for each row (`read_suggestedBody`).

The tags before and behind the rows are known to the last letter, and so is what each tag of a row
does. Only the codes, the numbers of lines and the number of rows vary.
-/

namespace CodeReview.Suggestion

open Text Html
open Html.Opening (within number)
open Html.Parser (inMarkup)

/-! ### Trees -/

namespace Row

/-- The cell for the number of a line. -/
def numberCell (row : Row) : Element := ⟨"td", row.numberAttributes, []⟩

/-- The cell for the code. -/
def codeCell (row : Row) : Element := ⟨"td", row.codeAttributes, Arena.textNodes row.code.toList⟩

def element (row : Row) : Element := ⟨"tr", [], [row.numberCell.node, row.codeCell.node]⟩

end Row

/-- The open elements around the rows, innermost first. -/
def around : List Opening := [
  ⟨"tbody", [], []⟩,
  ⟨"table", [], []⟩,
  ⟨"div", [("class", "js-suggested-changes-blob")], [.element "p" [] [.text "Suggested change"]]⟩,
  ⟨"html", [], []⟩]

/-- The root of a body, which holds everything in it. -/
def root (rows : List Row) : Element where
  name := "html"
  attributes := []
  children := [.element "p" [] [.text "Suggested change"],
    .element "div" [("class", "js-suggested-changes-blob")] [
      .element "table" [] [.element "tbody" [] (rows.map (·.element.node))]]]

theorem within_around (rows : List Row) :
    within around (rows.map (·.element.node)) = [(root rows).node] := rfl

/-! ### Spelled tags -/

theorem isPlain_rowTag : Tag.IsPlain { name := "tr" } :=
  ⟨by decide, List.forall_mem_nil _, List.nodup_nil, rfl⟩

theorem isName_class : IsName "class" := by decide

/-- A cell of some classes, with more attributes. -/
theorem isPlain_cellTag {classes : String} {more : Attributes} (hclasses : IsValue classes)
    (hmore : ∀ pair ∈ more, IsName pair.1 ∧ IsValue pair.2)
    (hnodup : ("class" :: more.map (·.1)).Nodup) :
    Tag.IsPlain { name := "td", attributes := ("class", classes) :: more } where
  name := (by decide : IsName "td")
  attributes := List.forall_mem_cons.mpr ⟨⟨isName_class, hclasses⟩, hmore⟩
  nodup := hnodup
  selfClosing := rfl

theorem isValue_lineText (line : LineNumber) : IsValue (lineText line) := by
  intro c hc
  have hdigit := isDigit_of_mem_lineText hc
  refine ⟨?_, ?_, ?_⟩ <;> (rintro rfl; exact absurd hdigit (by decide))

theorem isPlain_numberTag (row : Row) :
    Tag.IsPlain { name := "td", attributes := row.numberAttributes } := by
  have hclasses : IsValue ("blob-num blob-num-" ++ row.kind.word) := by
    cases row.kind <;> decide +kernel
  rw [Row.numberAttributes]
  cases row.line with
  | none => exact isPlain_cellTag hclasses (List.forall_mem_nil _) (by decide)
  | some line =>
    have hname : IsName "data-line-number" := by decide +kernel
    exact isPlain_cellTag hclasses
      (List.forall_mem_singleton.mpr ⟨hname, isValue_lineText line⟩) (by simp)

theorem isPlain_codeTag (row : Row) :
    Tag.IsPlain { name := "td", attributes := row.codeAttributes } := by
  have hclasses : IsValue ("blob-code blob-code-" ++ row.kind.word) := by
    cases row.kind <;> decide +kernel
  exact isPlain_cellTag hclasses (List.forall_mem_nil _) (by decide)

/-! ### Builders -/

/-- The builder between two rows. -/
def betweenRows (arena : Arena) : Builder where
  arena := arena
  mode := .inTableBody
  stack := [⟨6, .html, "tbody"⟩, ⟨5, .html, "table"⟩, ⟨4, .html, "div"⟩, ⟨1, .html, "html"⟩]
  framesAllowed := false
  isPiece := true

/-- The builder in a row. -/
def inRow (row : Nat) (arena : Arena) : Builder :=
  { betweenRows arena with
    mode := .inRow
    stack := ⟨row, .html, "tr"⟩ :: (betweenRows arena).stack }

/-- The builder in a cell. -/
def inCell (row cell : Nat) (arena : Arena) : Builder :=
  { inRow row arena with
    mode := .inCell
    stack := ⟨cell, .html, "td"⟩ :: (inRow row arena).stack
    formatting := [.marker] }

/-- The builder behind the rows, when as many of the elements around them are closed. -/
def behind (arena : Arena) (mode : Mode) (closed : Nat) : Builder :=
  { betweenRows arena with
    mode := mode
    stack := (betweenRows arena).stack.drop closed }

/-! #### Tags -/

set_option maxRecDepth 100000 in
theorem run_opening :
    ({ builder := .forPiece } : Parser).run opening.toList =
      inMarkup (betweenRows (.ofNodes (within around []))) := by
  rfl

theorem take_startRow (arena : Arena) :
    (inMarkup (betweenRows arena)).take (.start { name := "tr" }) =
      inMarkup (inRow arena.size (arena.appendNew 6 (.element "tr" []))) := by
  rfl

theorem take_startCell (row : Nat) (arena : Arena) (attributes : Attributes) :
    (inMarkup (inRow row arena)).take (.start { name := "td", attributes }) =
      inMarkup (inCell row arena.size (arena.appendNew row (.element "td" attributes))) := by
  rfl

theorem take_endCell (row cell : Nat) (arena : Arena) :
    (inMarkup (inCell row cell arena)).take (.close "td") = inMarkup (inRow row arena) := by
  rfl

theorem take_endRow (row : Nat) (arena : Arena) :
    (inMarkup (inRow row arena)).take (.close "tr") = inMarkup (betweenRows arena) := by
  rfl

theorem take_endTableBody (arena : Arena) :
    (inMarkup (betweenRows arena)).take (.close "tbody") =
      inMarkup (behind arena .inTable 1) := by
  rfl

theorem take_endTable (arena : Arena) :
    (inMarkup (behind arena .inTable 1)).take (.close "table") =
      inMarkup (behind arena .inBody 2) := by
  rfl

theorem take_endBlock (arena : Arena) :
    (inMarkup (behind arena .inBody 2)).take (.close "div") =
      inMarkup (behind arena .inBody 3) := by
  rfl

theorem finish_behind (arena : Arena) :
    (inMarkup (behind arena .inBody 3)).finish = behind arena .inBody 3 := by
  rfl

/-! #### Text -/

theorem take_char {c : Char} (hnull : c ≠ '\x00') (row cell : Nat) (arena : Arena) :
    (inMarkup (inCell row cell arena)).take (.char c) =
      inMarkup (inCell row cell (arena.appendChar cell c)) := by
  have hchar : (inCell row cell arena).bodyChar c = inCell row cell (arena.appendChar cell c) := by
    rw [Builder.bodyChar, if_neg hnull]
    dsimp only
    split <;> rfl
  have hrule : (inCell row cell arena).rule (.char c) =
      ((inCell row cell arena).bodyChar c).done := rfl
  rw [hchar] at hrule
  have hprocess : (inMarkup (inCell row cell arena)).builder.process (.char c) =
      (inCell row cell (arena.appendChar cell c), none) :=
    Builder.process_char_of_done rfl hrule
  rw [Parser.take, hprocess]
  rfl

/-- The text of a cell gathers in it. -/
theorem run_code {code : List Char} (h : ∀ c ∈ code, c ≠ '<' ∧ c ≠ '&' ∧ c ≠ '\x00')
    (row cell : Nat) (arena : Arena) :
    (inMarkup (inCell row cell arena)).run code =
      inMarkup (inCell row cell (code.foldl (·.appendChar cell ·) arena)) := by
  induction code generalizing arena with
  | nil => rfl
  | cons c code ih =>
    rw [List.forall_mem_cons] at h
    have hstep := @Parser.step_char (inCell row cell arena) c h.1.1 h.1.2.1
    rw [Parser.run_cons, hstep, take_char h.1.2.2, ih h.2]
    rfl

/-! ### Reading -/

/-- One cell of a row. -/
theorem run_cell {attributes : Attributes}
    (htag : Tag.IsPlain { name := "td", attributes }) {content : List Char}
    (h : ∀ c ∈ content, c ≠ '<' ∧ c ≠ '&' ∧ c ≠ '\x00') (openings : List Opening)
    (nodes : List Node) :
    (inMarkup (inRow (number openings) (.ofNodes (within openings nodes)))).run
        (cellText attributes content) =
      inMarkup (inRow (number openings) (.ofNodes
        (within openings (nodes ++ [.element "td" attributes (Arena.textNodes content)])))) := by
  have hnumber : (Arena.ofNodes (within openings nodes)).size =
      number (⟨"td", attributes, nodes⟩ :: openings) := Arena.size_ofNodes_within openings nodes
  rw [cellText, Parser.run_append, Parser.run_startTag htag, take_startCell,
    Arena.appendNew_element_within, hnumber, Parser.run_append, run_code h,
    Arena.foldl_appendChar_within, Parser.run_closeTag (by decide), take_endCell]
  rfl

/-- One row. -/
theorem run_row {row : Row} (h : row.IsPlain) (nodes : List Node) :
    (inMarkup (betweenRows (.ofNodes (within around nodes)))).run row.markup.toList =
      inMarkup (betweenRows (.ofNodes (within around (nodes ++ [row.element.node])))) := by
  have hopen : (Arena.ofNodes (within around nodes)).appendNew 6 (.element "tr" []) =
      .ofNodes (within (⟨"tr", [], nodes⟩ :: around) []) := Arena.appendNew_element_within "tr" []
  have hnumber : (Arena.ofNodes (within around nodes)).size =
      number (⟨"tr", [], nodes⟩ :: around) := Arena.size_ofNodes_within around nodes
  have hcode : ∀ c ∈ row.code.toList, c ≠ '<' ∧ c ≠ '&' ∧ c ≠ '\x00' := fun c hc =>
    ⟨(h c hc).1, (h c hc).2.1, (h c hc).2.2.2.1⟩
  rw [Row.toList_markup, Parser.run_append, Parser.run_startTag isPlain_rowTag, take_startRow,
    hopen, hnumber, Parser.run_append, run_cell (isPlain_numberTag row) (List.forall_mem_nil _),
    Parser.run_append, run_cell (isPlain_codeTag row) hcode,
    Parser.run_closeTag (by decide), take_endRow]
  rfl

theorem run_rows {rows : List Row} (h : ∀ row ∈ rows, row.IsPlain) (nodes : List Node) :
    (inMarkup (betweenRows (.ofNodes (within around nodes)))).run
        (rows.flatMap (·.markup.toList)) =
      inMarkup (betweenRows (.ofNodes (within around (nodes ++ rows.map (·.element.node))))) := by
  induction rows generalizing nodes with
  | nil => simp
  | cons row rows ih =>
    rw [List.forall_mem_cons] at h
    rw [List.flatMap_cons, Parser.run_append, run_row h.1, ih h.2, List.map_cons,
      List.append_assoc, List.singleton_append]

theorem finish_run_closing (arena : Arena) :
    ((inMarkup (betweenRows arena)).run closing.toList).finish = behind arena .inBody 3 := by
  have htags : closing.toList =
      endTagText "tbody" ++ (endTagText "table" ++ endTagText "div") := rfl
  rw [htags, Parser.run_append, Parser.run_closeTag (by decide), take_endTableBody,
    Parser.run_append, Parser.run_closeTag (by decide), take_endTable,
    Parser.run_closeTag (by decide), take_endBlock,
    finish_behind]

/-- **A body is read as a tree with an element for each row.** -/
theorem read_suggestedBody {rows : List Row} (h : ∀ row ∈ rows, row.IsPlain) :
    Builder.forPiece.read (suggestedBody rows) =
      behind (.ofNodes [(root rows).node]) .inBody 3 := by
  rw [Builder.read, normalizeNewlines_suggestedBody h, toList_suggestedBody, Parser.run_append,
    run_opening, Parser.run_append, run_rows h, List.nil_append, finish_run_closing, within_around]

end CodeReview.Suggestion
