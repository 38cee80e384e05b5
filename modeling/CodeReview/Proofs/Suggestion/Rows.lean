import CodeReview.Proofs.Html.Tags
import CodeReview.Proofs.Suggestion.Annotations

/-!
# CodeReview.Proofs.Suggestion.Rows

Suggested changes written down as tables (`suggestedBody`). Each row takes out or puts in one line
of code, and may give the number of a line.

The text of a body is its tags and codes one after another (`Row.toList_markup`). A code without
quotes holds no annotation and ends where a tag begins, so the annotations of the body are those of
the number cells, in the order of the rows (`annotatedLines_suggestedBody`).
-/

namespace CodeReview.Suggestion

open Text Html

/-! ### Rows -/

/-- What a row does with its code. -/
inductive RowKind
  | removed
  | added
deriving DecidableEq, Repr

/-- How the classes of the cells of a row name its kind. -/
def RowKind.word : RowKind → String
  | removed => "deletion"
  | added => "addition"

/-- A row of a suggested change. -/
structure Row where
  line : Option LineNumber
  kind : RowKind
  code : String
deriving DecidableEq, Repr

/-- The attribute by which a number cell gives a line, if it gives one. -/
def lineMark (line : Option LineNumber) : String :=
  (line.map fun line => " data-line-number=\"" ++ lineText line ++ "\"").getD ""

namespace Row

/-- A row with a number cell and a cell for the code. -/
def markup (row : Row) : String :=
  "<tr><td class=\"blob-num blob-num-" ++ row.kind.word ++ "\"" ++ lineMark row.line ++
    "></td><td class=\"blob-code blob-code-" ++ row.kind.word ++ "\">" ++ row.code ++ "</td></tr>"

/-- Nothing in the code begins a tag, a reference or an end of a quote, and it is read as it
stands. -/
def IsPlain (row : Row) : Prop :=
  ∀ c ∈ row.code.toList, c ≠ '<' ∧ c ≠ '&' ∧ c ≠ '"' ∧ c ≠ '\x00' ∧ c ≠ '\r'

instance (row : Row) : Decidable row.IsPlain := List.decidableBAll _ _

end Row

/-- What stands before the rows. -/
def opening : String :=
  "<p>Suggested change</p><div class=\"js-suggested-changes-blob\"><table><tbody>"

/-- What stands behind the rows. -/
def closing : String := "</tbody></table></div>"

/-- A body that suggests the change of the rows. -/
def suggestedBody (rows : List Row) : String :=
  opening ++ String.join (rows.map Row.markup) ++ closing

theorem toList_suggestedBody (rows : List Row) :
    (suggestedBody rows).toList =
      opening.toList ++ (rows.flatMap (·.markup.toList) ++ closing.toList) := by
  simp only [suggestedBody, String.toList_append, String.toList_join, List.append_assoc,
    List.flatMap_map]

/-! ### Tags -/

namespace Row

/-- The attributes of the number cell. -/
def numberAttributes (row : Row) : Attributes :=
  ("class", "blob-num blob-num-" ++ row.kind.word) ::
    (row.line.map fun line => ("data-line-number", lineText line)).toList

/-- The attributes of the cell for the code. -/
def codeAttributes (row : Row) : Attributes :=
  [("class", "blob-code blob-code-" ++ row.kind.word)]

end Row

theorem toList_lineMark (line : Option LineNumber) :
    (lineMark line).toList =
      (line.map fun line => ("data-line-number", lineText line)).toList.flatMap attributeText := by
  cases line with
  | none => simp [lineMark]
  | some line => simp [lineMark, attributeText]

theorem text_eq_classes (name classes : String) (more : Attributes) :
    Tag.text { name, attributes := ("class", classes) :: more } =
      '<' :: (name.toList ++ (" class=\"".toList ++ (classes.toList ++ ('"' ::
        (more.flatMap attributeText ++ ['>']))))) := by
  simp [Tag.text, attributeText]

/-- A cell with the given attributes and text. -/
def cellText (attributes : Attributes) (content : List Char) : List Char :=
  Tag.text { name := "td", attributes } ++ (content ++ endTagText "td")

/-- The text of a row is that of its cells, between its tags. -/
theorem Row.toList_markup (row : Row) :
    row.markup.toList =
      Tag.text { name := "tr" } ++ (cellText row.numberAttributes [] ++
        (cellText row.codeAttributes row.code.toList ++ endTagText "tr")) := by
  rw [cellText, cellText, numberAttributes, codeAttributes, text_eq_classes, text_eq_classes,
    ← toList_lineMark]
  delta markup
  simp [Tag.text, endTagText]

theorem isIn_suggestedBody (rows : List Row) : isIn (suggestedBody rows) = true := by
  have hopening : blockClass.toList <:+: opening.toList := occursIn_iff.mp (by decide +kernel)
  rw [isIn, holds, occursIn_iff, toList_suggestedBody]
  exact hopening.trans (List.prefix_append _ _).isInfix

/-! ### Annotations -/

/-- The annotation of a number cell. -/
theorem toList_lineMark_some (line : LineNumber) :
    (lineMark (some line)).toList = ' ' :: annotationOf (lineText line).toList := by
  have hstart : " data-line-number=\"".toList = ' ' :: annotationStart := rfl
  simp only [lineMark, Option.map_some, Option.getD_some, String.toList_append, hstart,
    annotationOf, List.cons_append]
  simp

/-- The row cut at the ends of its start tags and at the end of its code. -/
theorem Row.toList_markup_cut (row : Row) :
    row.markup.toList =
      ("<tr><td class=\"blob-num blob-num-".toList ++ row.kind.word.toList ++ "\"".toList ++
        (lineMark row.line).toList) ++ '>' ::
          (("</td><td class=\"blob-code blob-code-".toList ++ row.kind.word.toList ++
            "\"".toList) ++ '>' :: (row.code.toList ++ '<' :: ("/td></tr".toList ++ ['>']))) := by
  delta markup
  simp

/-- The annotations of the text up to the end of the number cell. -/
theorem annotationsFrom_numberCell (kind : RowKind) (line : Option LineNumber) :
    annotationsFrom 0 ("<tr><td class=\"blob-num blob-num-".toList ++ kind.word.toList ++
      "\"".toList ++ (lineMark line).toList) =
        (line.map fun line => (lineText line).toList).toList := by
  have hclass : annotationsFrom 0 ("<tr><td class=\"blob-num blob-num-".toList ++
      kind.word.toList ++ "\"".toList) = [] := by cases kind <;> decide +kernel
  cases line with
  | none =>
    have hmark : (lineMark none).toList = [] := by simp [lineMark]
    rw [hmark, List.append_nil, hclass]
    rfl
  | some line =>
    have hdigits := isRun_of_lineNumber? (lineNumber?_lineText line)
    have halone := annotationsFrom_annotationOf hdigits []
    rw [List.append_nil] at halone
    rw [toList_lineMark_some, annotationsFrom_append_cons (by decide) (by decide), hclass, halone]
    rfl

/-- The annotations of a row, and of what stands behind it. -/
theorem Row.annotationsFrom_markup {row : Row} (h : row.IsPlain) (rest : List Char) :
    annotationsFrom 0 (row.markup.toList ++ rest) =
      (row.line.map fun line => (lineText line).toList).toList ++ annotationsFrom 0 rest := by
  have hgreater := @annotationsFrom_append_cons '>' (by decide) (by decide)
  have hless := @annotationsFrom_append_cons '<' (by decide) (by decide)
  have hclass : annotationsFrom 0 ("</td><td class=\"blob-code blob-code-".toList ++
      row.kind.word.toList ++ "\"".toList) = [] := by cases row.kind <;> decide +kernel
  have hcode : annotationsFrom 0 row.code.toList = [] :=
    annotationsFrom_eq_nil fun hmem => (h _ hmem).2.2.1 rfl
  have hend : annotationsFrom 0 "/td></tr".toList = [] := by decide +kernel
  rw [Row.toList_markup_cut, List.append_assoc _ _ rest, List.cons_append, hgreater,
    annotationsFrom_numberCell, List.append_assoc _ _ rest, List.cons_append, hgreater, hclass,
    List.append_assoc _ _ rest, List.cons_append, hless, hcode, List.append_assoc _ _ rest,
    List.singleton_append, hgreater, hend]
  rfl

/-- **The lines of a body are those of its rows**, in order. -/
theorem annotatedLines_suggestedBody {rows : List Row} (h : ∀ row ∈ rows, row.IsPlain) :
    annotatedLines (suggestedBody rows).toList = rows.filterMap (·.line) := by
  have hopening (rest : List Char) :
      annotationsFrom 0 (opening.toList ++ rest) = annotationsFrom 0 rest := by
    have hnone : annotationsFrom 0 opening.toList.dropLast = [] := by decide +kernel
    have hlast : opening.toList = opening.toList.dropLast ++ ['>'] := by decide +kernel
    rw [hlast, List.append_assoc, List.singleton_append,
      annotationsFrom_append_cons (by decide) (by decide), hnone]
    rfl
  have hclosing : annotationsFrom 0 closing.toList = [] := by decide +kernel
  have hrows : annotationsFrom 0 (rows.flatMap (·.markup.toList) ++ closing.toList) =
      (rows.filterMap (·.line)).map fun line => (lineText line).toList := by
    induction rows with
    | nil => exact hclosing
    | cons row rows ih =>
      rw [List.forall_mem_cons] at h
      rw [List.flatMap_cons, List.append_assoc, Row.annotationsFrom_markup h.1, ih h.2]
      cases hline : row.line with
      | none => simp [hline]
      | some line => simp [hline]
  have hread : lineNumber? ∘ (fun line => (lineText line).toList) = some :=
    funext lineNumber?_lineText
  rw [annotatedLines, toList_suggestedBody, hopening, hrows, List.filterMap_map, hread,
    List.filterMap_some]

/-! ### Ends of lines -/

theorem return_notMem_markup {row : Row} (h : row.IsPlain) : '\r' ∉ row.markup.toList := by
  have hmark : '\r' ∉ (lineMark row.line).toList := by
    cases row.line with
    | none => simp [lineMark]
    | some line =>
      rw [toList_lineMark_some, annotationOf]
      simp only [List.mem_cons, List.mem_append, not_or]
      exact ⟨by decide, ⟨by decide, notMem_lineText (by decide) line⟩, by decide,
        List.not_mem_nil⟩
  have hcode : '\r' ∉ row.code.toList := fun hmem => (h _ hmem).2.2.2.2 rfl
  have hword : '\r' ∉ row.kind.word.toList := by cases row.kind <;> decide
  rw [Row.toList_markup_cut]
  simp [hmark, hcode, hword]

/-- Nothing in a body has ends of lines to be changed. -/
theorem normalizeNewlines_suggestedBody {rows : List Row} (h : ∀ row ∈ rows, row.IsPlain) :
    normalizeNewlines (suggestedBody rows).toList = (suggestedBody rows).toList := by
  have hopening : '\r' ∉ opening.toList := by decide +kernel
  have hclosing : '\r' ∉ closing.toList := by decide +kernel
  refine normalizeNewlines_of_notMem ?_
  simp only [toList_suggestedBody, List.mem_append, List.mem_flatMap, not_or, not_exists, not_and]
  exact ⟨hopening, fun row hrow => return_notMem_markup (h row hrow), hclosing⟩

end CodeReview.Suggestion
