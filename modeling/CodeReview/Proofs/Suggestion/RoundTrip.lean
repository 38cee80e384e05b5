import CodeReview.Proofs.ReviewPage.Mirror
import CodeReview.Proofs.Suggestion.Table

/-!
# CodeReview.Proofs.Suggestion.RoundTrip

Suggested changes that are written down as tables are read back (`ofBody?_suggestedBody`): the
lines off the annotations of the text, the codes off the cells of the tree. Both readers see the
same rows, though neither sees what the other reads.
-/

namespace CodeReview.Suggestion

open Text Html

/-! ### Codes -/

/-- The codes of the rows of a kind, without blanks at their ends. -/
def codes (kind : RowKind) (rows : List Row) : List String :=
  (rows.filter (·.kind = kind)).map fun row => trimmed row.code

theorem flatMap_codes_singleton (kind : RowKind) (rows : List Row) :
    (rows.flatMap fun row => codes kind [row]) = codes kind rows := by
  induction rows with
  | nil => rfl
  | cons row rows ih =>
    rw [List.flatMap_cons, ih, codes, codes, codes, ← List.map_append, ← List.filter_append,
      List.singleton_append]

theorem codes_ne_nil {row : Row} {rows : List Row} (h : row ∈ rows) : codes row.kind rows ≠ [] := by
  rw [codes, List.map_eq_nil_iff.ne]
  exact List.ne_nil_of_mem (List.mem_filter.mpr ⟨h, decide_eq_true rfl⟩)

/-! ### Cells -/

/-- The class of cells with code of a kind. -/
def RowKind.cellClass : RowKind → String
  | removed => removedClass
  | added => addedClass

/-- The element is no cell with code. -/
def IsQuiet (element : Element) : Prop := ∀ kind : RowKind, element.hasClass kind.cellClass = false

theorem hasClass_cell (classes name : String) (more : Attributes) (children : List Node) :
    (⟨"td", ("class", classes) :: more, children⟩ : Element).hasClass name =
      ((words classes.toList).map String.ofList).contains name := by
  simp [Element.hasClass, Element.attribute?]

theorem isQuiet_numberCell (row : Row) : IsQuiet row.numberCell := by
  intro kind
  rw [Row.numberCell, Row.numberAttributes, hasClass_cell]
  cases row.kind <;> cases kind <;> decide +kernel

theorem hasClass_codeCell (row : Row) (kind : RowKind) :
    row.codeCell.hasClass kind.cellClass = decide (row.kind = kind) := by
  rw [Row.codeCell, Row.codeAttributes, hasClass_cell]
  cases row.kind <;> cases kind <;> decide +kernel

/-- What is read off an element about the code of a kind. -/
def codeAt? (kind : RowKind) (position : Position) : Option String :=
  if position.here.element.hasClass kind.cellClass then
    some (String.ofList (trim (Node.charsOf position.here.element.children)))
  else none

theorem codeAt?_of_quiet (kind : RowKind) {element : Element} (h : IsQuiet element)
    (above : List Step) (before : List Node) : codeAt? kind ⟨⟨element, before⟩, above⟩ = none := by
  rw [codeAt?, h, if_neg Bool.false_ne_true]

theorem isQuiet_element (row : Row) : IsQuiet row.element := by
  intro kind
  cases kind <;> rfl

/-- In a row, the code is read off the second cell. -/
theorem filterMap_codeAt?_row (kind : RowKind) (row : Row) (above : List Step)
    (before : List Node) :
    (Node.positionsOf above before [row.element.node]).filterMap (codeAt? kind) =
      codes kind [row] := by
  have hnumber (above : List Step) (before : List Node) :
      (Node.positionsOf above before [row.numberCell.node]).filterMap (codeAt? kind) = [] := by
    rw [filterMap_positionsOf_node, codeAt?_of_quiet kind (isQuiet_numberCell row)]
    rfl
  have hcode (above : List Step) (before : List Node) :
      (Node.positionsOf above before [row.codeCell.node]).filterMap (codeAt? kind) =
        codes kind [row] := by
    have hinside (above : List Step) :
        Node.positionsOf above [] row.codeCell.children = [] := Arena.positionsOf_textNodes _ _ _
    have htext : String.ofList (trim (Node.charsOf row.codeCell.children)) = trimmed row.code := by
      rw [Row.codeCell, Arena.charsOf_textNodes]
      rfl
    rw [filterMap_positionsOf_node, hinside, codeAt?, hasClass_codeCell, htext, codes]
    by_cases hkind : row.kind = kind <;> simp [hkind]
  have hcells : row.element.children = [row.numberCell.node] ++ [row.codeCell.node] := rfl
  rw [filterMap_positionsOf_node, codeAt?_of_quiet kind (isQuiet_element row), hcells,
    Node.positionsOf_append, List.filterMap_append, hnumber, hcode, Option.toList_none,
    List.nil_append, List.nil_append]

/-- The root shows the rows. -/
theorem shows_root (rows : List Row) :
    Shows IsQuiet (Single fun row element => Row.element row = element) rows
      (root rows).children := by
  have hbare (name : String) (children : List Node) : IsQuiet ⟨name, [], children⟩ := by
    intro kind
    cases kind <;> rfl
  have hblock (children : List Node) :
      IsQuiet ⟨"div", [("class", "js-suggested-changes-blob")], children⟩ := by
    intro kind
    have hclass : (words "js-suggested-changes-blob".toList).map String.ofList =
        ["js-suggested-changes-blob"] := by decide +kernel
    simp only [Element.hasClass, Element.attribute?, List.lookup_cons_self, Option.getD_some,
      hclass]
    cases kind <;> decide +kernel
  have hrows : Shows IsQuiet (Single fun row element => Row.element row = element) rows
      (rows.map (·.element.node)) :=
    @Shows.of_forall Row IsQuiet (fun row element => row.element = element) Row.element
      (fun _ => rfl) rows
  have htext : Shows IsQuiet (Single fun row element => Row.element row = element) []
      [.text "Suggested change"] := .text .nil
  exact .within (hbare "p" _) htext <| .within_singleton (hblock _) <|
    .within_singleton (hbare "table" _) <| .within_singleton (hbare "tbody" _) hrows

/-- The codes are read off the elements in the root. -/
theorem filterMap_codeAt?_root (kind : RowKind) (rows : List Row) (above : List Step) :
    (Node.positionsOf above [] (root rows).children).filterMap (codeAt? kind) =
      codes kind rows := by
  have hread : (Node.positionsOf above [] (root rows).children).filterMap (codeAt? kind) =
      rows.flatMap fun row => codes kind [row] := by
    refine (shows_root rows).filterMap_positionsOf _ (fun position hquiet => ?_)
      (fun row _ segment inner before hrow _ => ?_) []
    · exact codeAt?_of_quiet kind hquiet position.above position.here.before
    · obtain ⟨element, rfl, rfl⟩ := hrow
      exact filterMap_codeAt?_row kind row _ before
  rw [hread, flatMap_codes_singleton]

/-! ### Bodies -/

/-- What is read off a page of trees is what its elements show. -/
theorem changeOfCells_pageOf (nodes : List Node) (positions : List Position) :
    changeOfCells (Node.pageOf nodes) positions =
      CodeChange.of? (positions.filterMap (codeAt? .removed))
        (positions.filterMap (codeAt? .added)) := by
  have htexts (kind : RowKind) :
      (positions.filter ((Node.pageOf nodes).hasClass · kind.cellClass)).map
          (Node.pageOf nodes).trimmedText = positions.filterMap (codeAt? kind) := by
    rw [← List.filterMap_eq_map, List.filterMap_filter]
    rfl
  rw [changeOfCells]
  exact congrArg₂ CodeChange.of? (htexts .removed) (htexts .added)

/-- The change of a body is that of its rows. -/
theorem changeOfPiece_suggestedBody {rows : List Row} (h : ∀ row ∈ rows, row.IsPlain) :
    changeOfPiece (.ofPiece (suggestedBody rows)) =
      CodeChange.of? (codes .removed rows) (codes .added rows) := by
  have hpiece : changeOfPiece (.ofPiece (suggestedBody rows)) =
      changeOfCells (Arena.ofNodes [(root rows).node]).page
        ((Arena.ofNodes [(root rows).node]).page.inner 1) := by
    rw [Page.ofPiece, read_suggestedBody h]
    rfl
  have hholds := Arena.holds_ofNodes [(root rows).node]
  rw [hpiece, ReviewPage.changeOfCells_eq hholds.mirrors.within hholds.names_first,
    changeOfCells_pageOf]
  exact congrArg₂ CodeChange.of? (filterMap_codeAt?_root .removed rows _)
    (filterMap_codeAt?_root .added rows _)

/-- **Suggested changes are read back.** The body of a table with some rows suggests a change for
the lines from the least to the greatest that its rows give, or for no lines in particular if
none of them gives one. It takes out the codes of the rows that remove something and puts in those
of the rows that add something, each in the order of the rows and without blanks at its ends. -/
theorem ofBody?_suggestedBody {rows : List Row} (hne : rows ≠ [])
    (h : ∀ row ∈ rows, row.IsPlain) :
    ofBody? (some (suggestedBody rows)) =
      { range := do
          return ⟨← (rows.filterMap (·.line)).min?, ← (rows.filterMap (·.line)).max?⟩
        change := some ⟨codes .removed rows, codes .added rows⟩ } := by
  have hrange : range? (suggestedBody rows) = hull? (rows.filterMap (·.line)) := by
    rw [range?, if_pos (isIn_suggestedBody rows), annotatedLines_suggestedBody h]
  have hsome : codes .removed rows ≠ [] ∨ codes .added rows ≠ [] := by
    obtain ⟨row, hrow⟩ := List.exists_mem_of_ne_nil rows hne
    have hcodes := codes_ne_nil hrow
    cases hkind : row.kind with
    | removed => exact .inl (hkind ▸ hcodes)
    | added => exact .inr (hkind ▸ hcodes)
  have hchange : change? (suggestedBody rows) =
      some ⟨codes .removed rows, codes .added rows⟩ := by
    rw [change?, if_pos (isIn_suggestedBody rows), changeOfPiece_suggestedBody h,
      CodeChange.of?_eq_some_iff]
    exact ⟨rfl, hsome⟩
  rw [ofBody?_some, ofBody, hrange, hchange, hull?]

/-- Rows of both kinds whose lines are out of order, with blanks around a code, an empty code, and
codes that look like parts of the table. -/
def mixedRows : List Row := [
  ⟨some 30, .removed, "  let a = old(); "⟩,
  ⟨some 7, .added, "data-line-number=5 />"⟩,
  ⟨none, .removed, "js-suggested-changes-blob"⟩,
  ⟨some 4294967295, .added, ""⟩,
  ⟨some 7, .added, "\u00a0let a =\n  'b';\u2003"⟩]

/-- They are read back. -/
theorem ofBody?_suggestedBody_mixedRows :
    mixedRows ≠ [] ∧ (∀ row ∈ mixedRows, row.IsPlain) ∧
      ofBody? (some (suggestedBody mixedRows)) =
        { range := some ⟨7, 4294967295⟩
          change := some ⟨["let a = old();", "js-suggested-changes-blob"],
            ["data-line-number=5 />", "", "let a =\n  'b';"]⟩ } := by
  have hne : mixedRows ≠ [] := by decide
  have hplain : ∀ row ∈ mixedRows, row.IsPlain := by decide +kernel
  refine ⟨hne, hplain, ?_⟩
  rw [ofBody?_suggestedBody hne hplain]
  decide +kernel

end CodeReview.Suggestion
