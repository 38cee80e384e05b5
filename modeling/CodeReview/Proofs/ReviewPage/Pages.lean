import CodeReview.Proofs.ReviewPage.Items

/-!
# CodeReview.Proofs.ReviewPage.Pages

A page for every review: the page of a list of items, with the elements that such pages usually
have, and nothing more than it takes to show the items.
-/

namespace CodeReview.ReviewPage

open Html Text

/-! ### Classes of elements -/

/-- What an element bears is told by the words of its class. -/
theorem bears_of_class (kind : Option String) {element : Element} {text : String}
    (hclass : element.attribute? "class" = some text)
    (hwords : ∀ name ∈ reviewClasses,
      ((words text.toList).map String.ofList).contains name = decide (some name = kind)) :
    Bears kind element := by
  intro name hname
  rw [Element.hasClass, hclass]
  exact hwords name hname

theorem plain_of_no_class {element : Element} (hclass : element.attribute? "class" = none) :
    Plain element := by
  intro name _
  rw [Element.hasClass, hclass]
  rfl

theorem bare_text (quiet : Element → Prop) (content : String) : Bare quiet [.text content] :=
  .text .nil

/-! ### The page of a list of items -/

namespace Item

/-- The element with the author. -/
def authorElement (item : Item) : Element := ⟨"a", [("class", "author")], [.text item.author]⟩

/-- The element with the body. -/
def bodyElement (item : Item) : Element :=
  ⟨"div", [("class", "comment-body")], [.element "p" [] [.text item.body]]⟩

/-- The thread, which is flagged if it is resolved. -/
def threadElement (item : Item) : Element where
  name := "div"
  attributes :=
    ("class", "review-thread-component") ::
      if item.resolved then [("data-resolved", "true")] else []
  children := [item.authorElement.node, item.bodyElement.node]

/-- The row with the thread. -/
def threadRow (item : Item) : Element :=
  ⟨"tr", [("class", "inline-comments")], [.element "td" [] [item.threadElement.node]]⟩

/-- The cell with the number of the line. -/
def numberCell (item : Item) : Element :=
  ⟨"td", [("class", "blob-num"), ("data-line-number", lineText item.line)], []⟩

/-- The row of the line. -/
def codeRow (item : Item) : Element :=
  ⟨"tr", [], [item.numberCell.node, .element "td" [("class", "blob-code")] [.text "code"]]⟩

/-- The file with both rows. -/
def fileElement (item : Item) : Element where
  name := "div"
  attributes := [("class", "file"), ("data-tagsearch-path", item.path)]
  children :=
    [.element "table" [] [.element "tbody" [] [item.codeRow.node, item.threadRow.node]]]

end Item

/-- The page of a list of items. -/
def pageNodes (items : List Item) : List Node :=
  [.element "html" []
    [.element "head" [] [], .element "body" [] (items.map fun item => item.fileElement.node)]]

/-! ### It shows the items -/

variable (item : Item)

theorem isPassage_authorElement : IsPassage (authorClass, item.author) item.authorElement where
  bears := bears_of_class (some authorClass) rfl (by decide)
  chars := by simp [Item.authorElement, Node.chars]
  bare := bare_text _ _

theorem isPassage_bodyElement : IsPassage (bodyClass, item.body) item.bodyElement where
  bears := bears_of_class (some bodyClass) rfl (by decide)
  chars := by simp [Item.bodyElement, Node.chars]
  bare := .within_singleton (plain_of_no_class rfl) (bare_text _ _)

theorem isThread_threadElement : IsThread item item.threadElement where
  bears := bears_of_class (some threadClass) rfl (by decide)
  resolved := by
    show List.lookup resolvedAttribute (("class", "review-thread-component") ::
      if item.resolved then [("data-resolved", "true")] else []) = some "true" ↔ _
    cases item.resolved <;> decide
  chars := by
    simp [Item.threadElement, Item.authorElement, Item.bodyElement, Element.node, Node.chars]
  passages := .single (isPassage_authorElement item) (.single (isPassage_bodyElement item) .nil)

theorem isThreadRow_threadRow : IsThreadRow item item.threadRow where
  name := rfl
  bears := bears_of_class (some threadRowClass) rfl (by decide)
  thread := .within_singleton (plain_of_no_class rfl)
    (.single (isThread_threadElement item) .nil)

theorem isNumberCell_numberCell : IsNumberCell item.line item.numberCell where
  plain := bears_of_class none rfl (by decide)
  number := rfl
  bare := .nil

theorem isCodeRow_codeRow : IsCodeRow item.line item.codeRow where
  plain := plain_of_no_class rfl
  number := by
    have hcode : Unnumbered ⟨"td", [("class", "blob-code")], [.text "code"]⟩ :=
      ⟨bears_of_class none rfl (by decide), rfl⟩
    exact .single (isNumberCell_numberCell item) (.within_singleton hcode (.text .nil))

theorem isFile_fileElement : IsFile item item.fileElement where
  bears := bears_of_class (some fileClass) rfl (by decide)
  path := rfl
  rows := by
    have hgap : ∀ node ∈ ([] : List Node), IsGap node := by simp
    have hrows : IsRows item [item.codeRow.node, item.threadRow.node] :=
      .mk (isCodeRow_codeRow item) hgap (isThreadRow_threadRow item)
    have hvalue : Shows Plain IsRows [item] [item.codeRow.node, item.threadRow.node] :=
      .value hrows .nil
    exact .within_singleton (plain_of_no_class rfl)
      (.within_singleton (plain_of_no_class rfl) hvalue)

/-- **Every list of items is shown by a page.** -/
theorem showsItems_pageNodes (items : List Item) : ShowsItems items (pageNodes items) := by
  have hbody : Shows Plain (Single IsFile) items
      [.element "body" [] (items.map fun item => item.fileElement.node)] :=
    .within_singleton (plain_of_no_class rfl) (.of_forall isFile_fileElement items)
  exact .within_singleton (plain_of_no_class rfl)
    (.within (plain_of_no_class rfl) .nil hbody)

end CodeReview.ReviewPage
