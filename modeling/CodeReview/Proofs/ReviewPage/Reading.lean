import CodeReview.Proofs.ReviewPage.Items

/-!
# CodeReview.Proofs.ReviewPage.Reading

Reading a page gives the items that it shows. Going down, the threads come one for each item,
in order (`Shows.filterMap_positionsOf`, once for each level). Going up from a thread, the
nearest row of threads is that of the item, the row before it is the row of its line, and the
nearest file is that of the item: whatever else is above the thread is plain.
-/

namespace CodeReview.ReviewPage

open Html Text

variable {nodes : List Node} {item : Item}

/-! ### Classes -/

theorem Bears.hasClass {kind : Option String} {element : Element} (h : Bears kind element)
    {name : String} (hname : name ∈ reviewClasses) :
    element.hasClass name = decide (some name = kind) := h name hname

theorem Plain.hasClass {element : Element} (h : Plain element) {name : String}
    (hname : name ∈ reviewClasses) : element.hasClass name = false := by
  rw [Bears.hasClass h hname]
  rfl

/-! ### Searching -/

theorem map_find? {α β : Type} (p : α → Bool) (f : α → β) (l : List α) :
    (l.find? p).map f = l.findSome? fun a => if p a then some (f a) else none := by
  rw [List.find?_eq_findSome?_guard, List.map_findSome?]
  congr 1
  funext a
  cases hp : p a <;> simp [Option.guard, hp]

/-- What becomes of an element if it is a thread. -/
def threadFate? {ι : Type} (page : Page ι) (element : ι) : Option Fate :=
  if page.hasClass element threadClass then some (fate page element) else none

/-- The threads of a page with what becomes of them, as one pass over its elements. -/
theorem map_fate_threads {ι : Type} (page : Page ι) :
    (threads page).map (fate page) = page.elements.filterMap (threadFate? page) := by
  rw [threads, ← List.filterMap_eq_map, List.filterMap_filter]
  rfl

theorem threadFate?_of_bears {kind : Option String} {position : Position}
    (h : Bears kind position.here.element) (hkind : kind ≠ some threadClass) :
    threadFate? (Node.pageOf nodes) position = none := by
  rw [threadFate?, hasClass_pageOf, h.hasClass (by decide)]
  simp [hkind.symm]

theorem threadFate?_of_plain (position : Position) (h : Plain position.here.element) :
    threadFate? (Node.pageOf nodes) position = none := threadFate?_of_bears h (by decide)

/-! ### What a thread says -/

/-- Inside a thread there are its two passages, and nothing else that is read. -/
theorem filterMap_of_isThread {thread : Element} (h : IsThread item thread) {β : Type}
    {read : Position → Option β} (shown : String × String → List β)
    (hquiet : ∀ inside : Position, Plain inside.here.element → read inside = none)
    (hshown : ∀ passage ∈ [(authorClass, item.author), (bodyClass, item.body)],
      ∀ inside : Position, IsPassage passage inside.here.element →
      (read inside).toList = shown passage) (above : List Step) :
    (Node.positionsOf above [] thread.children).filterMap read =
      shown (authorClass, item.author) ++ shown (bodyClass, item.body) := by
  have hread : (Node.positionsOf above [] thread.children).filterMap read =
      [(authorClass, item.author), (bodyClass, item.body)].flatMap shown := by
    refine h.passages.filterMap_positionsOf shown hquiet
      (fun passage hmem segment around before hp _ => ?_) []
    obtain ⟨element, rfl, hpassage⟩ := hp
    rw [filterMap_positionsOf_node, hpassage.bare.filterMap_positionsOf hquiet, List.append_nil]
    exact hshown passage hmem _ hpassage
  rw [hread, List.flatMap_cons, List.flatMap_singleton]

theorem textOf?_of_isThread {position : Position} (h : IsThread item position.here.element)
    {name : String} (hname : name ∈ reviewClasses) :
    textOf? (Node.pageOf nodes) name position =
      ((if name = authorClass then [item.author] else []) ++
        if name = bodyClass then [item.body] else []).head? := by
  have htext : ∀ passage ∈ [(authorClass, item.author), (bodyClass, item.body)],
      ∀ inside : Position, IsPassage passage inside.here.element →
      (if (Node.pageOf nodes).hasClass inside name then
        some ((Node.pageOf nodes).trimmedText inside) else none).toList =
      if name = passage.1 then [trimmed passage.2] else [] := by
    intro passage _ inside hpassage
    have hwords : (Node.pageOf nodes).trimmedText inside = trimmed passage.2 := by
      rw [trimmed, ← hpassage.chars]
      rfl
    rw [hasClass_pageOf, hpassage.bears.hasClass hname, hwords]
    by_cases hpick : name = passage.1 <;> simp [hpick]
  have hquiet : ∀ inside : Position, Plain inside.here.element →
      (if (Node.pageOf nodes).hasClass inside name then
        some ((Node.pageOf nodes).trimmedText inside) else none) = none := by
    intro inside hinside
    rw [hasClass_pageOf, hinside.hasClass hname]
    rfl
  rw [textOf?, Page.firstOfClass?, map_find?, ← List.head?_filterMap]
  show (List.filterMap _ (Node.positionsOf (position.here :: position.above) [] _)).head? = _
  rw [filterMap_of_isThread h _ hquiet htext, item.trimmed_author, item.trimmed_body]

theorem author_of_isThread {position : Position} (h : IsThread item position.here.element) :
    author (Node.pageOf nodes) position = item.author := by
  rw [author, textOf?_of_isThread h (by decide)]
  rfl

theorem body_of_isThread {position : Position} (h : IsThread item position.here.element) :
    body (Node.pageOf nodes) position = item.body := by
  rw [body, textOf?_of_isThread h (by decide)]
  rfl

/-- A thread of an item suggests no change: there is no block of suggested changes in it. -/
theorem change?_of_isThread {position : Position} (h : IsThread item position.here.element) :
    change? (Node.pageOf nodes) position = none := by
  have htext : textOf? (Node.pageOf nodes) Suggestion.blockClass position = none := by
    rw [textOf?_of_isThread h (by decide)]
    rfl
  rw [change?, Option.map_eq_none_iff.mp htext]
  rfl

/-- What becomes of the thread of an item is told by the item, once the thread is found in its
file and on its line. -/
theorem fate_of_isThread {position : Position} (h : IsThread item position.here.element)
    (hpath : path? (Node.pageOf nodes) position = some item.path)
    (hline : rowLine? (Node.pageOf nodes) position = some item.line) :
    fate (Node.pageOf nodes) position = item.fate none := by
  have hresolved : isResolved (Node.pageOf nodes) position = item.resolved := by
    rw [isResolved, attribute?_pageOf, Bool.eq_iff_iff, beq_iff_eq]
    exact h.resolved
  have hchars : (Node.pageOf nodes).chars position = (item.author ++ item.body).toList := h.chars
  have hanchor : anchor? (Node.pageOf nodes) position = some (.line item.line) := by
    rw [anchor?, hchars, phraseRange?, item.no_phrase, hline]
    rfl
  unfold fate Item.fate
  rw [hresolved, hpath, hanchor, author_of_isThread h, body_of_isThread h, change?_of_isThread h]
  cases item.resolved with
  | true => rfl
  | false =>
    dsimp only
    rw [if_neg item.body_ne_empty]
    rfl

/-! ### Where a thread is -/

/-- Inside a row of code there is its number cell, and nothing else that is read. -/
theorem filterMap_of_isCodeRow {line : LineNumber} {code : Element} (h : IsCodeRow line code)
    {β : Type} {read : Position → Option β} (shown : List β)
    (hquiet : ∀ inside : Position, Unnumbered inside.here.element → read inside = none)
    (hshown : ∀ inside : Position, IsNumberCell line inside.here.element →
      (read inside).toList = shown) (above : List Step) :
    (Node.positionsOf above [] code.children).filterMap read = shown := by
  have hread : (Node.positionsOf above [] code.children).filterMap read =
      [line].flatMap fun _ => shown := by
    refine h.number.filterMap_positionsOf _ hquiet
      (fun shownLine hmem segment around before hcell _ => ?_) []
    obtain rfl := List.mem_singleton.mp hmem
    obtain ⟨cell, rfl, hcell⟩ := hcell
    rw [filterMap_positionsOf_node, hcell.bare.filterMap_positionsOf hquiet, List.append_nil]
    exact hshown _ hcell
  rw [hread, List.flatMap_singleton]

theorem lineOfRow?_of_isCodeRow {line : LineNumber} {position : Position}
    (h : IsCodeRow line position.here.element) :
    lineOfRow? (Node.pageOf nodes) position = some line := by
  have hnumber : ((Node.pageOf nodes).inner position).filterMap
      ((Node.pageOf nodes).attribute? · lineAttribute) = [lineText line] := by
    refine filterMap_of_isCodeRow h _ (fun inside hinside => hinside.2) (fun inside hcell => ?_) _
    rw [hcell.number]
    rfl
  rw [lineOfRow?, ← List.head?_filterMap, hnumber]
  show signedLineNumber? (trim (lineText line).toList) = some line
  rw [trim_lineText, signedLineNumber?_lineText]

/-- The element right before a gap is the last one before whatever follows the gap. -/
theorem lastBefore?_gap {gap : List Node} (hgap : ∀ node ∈ gap, IsGap node) (above : List Step)
    (element : Element) (before : List Node) :
    Position.lastBefore? above (gap ++ element.node :: before) =
      some ⟨⟨element, before⟩, above⟩ := by
  induction gap with
  | nil => rfl
  | cons node gap ih =>
    have hrest := ih fun node hnode => hgap node (List.mem_cons_of_mem _ hnode)
    rcases hgap node List.mem_cons_self with rfl | ⟨content, rfl⟩ <;> exact hrest

theorem positionsOf_gap {gap : List Node} (hgap : ∀ node ∈ gap, IsGap node) (above : List Step)
    (before : List Node) : Node.positionsOf above before gap = [] := by
  induction gap generalizing before with
  | nil => rfl
  | cons node gap ih =>
    have hrest := ih (fun node hnode => hgap node (List.mem_cons_of_mem _ hnode)) (node :: before)
    rw [Node.positionsOf_cons, hrest, List.append_nil]
    rcases hgap node List.mem_cons_self with rfl | ⟨content, rfl⟩ <;> rfl

/-- The way up from a thread of an item: its row, which comes right behind the row of its line,
then plain elements, then its file. -/
structure IsSetting (item : Item) (row : Step) (between : List Step) (file : Step) : Prop where
  threadRow : IsThreadRow item row.element
  behind : ∃ (code : Element) (gap before : List Node), IsCodeRow item.line code ∧
    (∀ node ∈ gap, IsGap node) ∧ row.before = gap ++ code.node :: before
  plain : ∀ step ∈ between, Plain step.element
  isFile : IsFile item file.element

section Setting

variable {thread row file : Step} {inRow between above : List Step}

/-- From a thread up to its row there is no other class than that of threads. -/
theorem hasClass_up_to_row (hthread : IsThread item thread.element)
    (hinRow : ∀ step ∈ inRow, Plain step.element) {name : String} (hname : name ∈ reviewClasses)
    (hother : name ≠ threadClass) :
    ∀ step ∈ thread :: inRow, step.element.hasClass name = false := by
  intro step hstep
  rcases List.mem_cons.mp hstep with rfl | hstep
  · rw [hthread.bears.hasClass hname]
    simp [hother]
  · exact (hinRow step hstep).hasClass hname

/-- A thread is on the line of the row before its row. -/
theorem rowLine?_of_isSetting (hthread : IsThread item thread.element)
    (hinRow : ∀ step ∈ inRow, Plain step.element) (h : IsSetting item row between file) :
    rowLine? (Node.pageOf nodes) ⟨thread, inRow ++ row :: (between ++ file :: above)⟩ =
      some item.line := by
  obtain ⟨code, gap, before, hcode, hgap, hbefore⟩ := h.behind
  have hclosest : (Node.pageOf nodes).closest? (isThreadRow (Node.pageOf nodes))
      ⟨thread, inRow ++ row :: (between ++ file :: above)⟩ =
      some ⟨row, between ++ file :: above⟩ := by
    refine closest?_pageOf (fun element => element.name == "tr" && element.hasClass threadRowClass)
      List.cons_append.symm (fun step hstep => ?_) ?_
    · rw [hasClass_up_to_row hthread hinRow (by decide) (by decide) step hstep, Bool.and_false]
    · rw [h.threadRow.name, h.threadRow.bears.hasClass (by decide)]
      rfl
  have hprevious : (Node.pageOf nodes).previous? ⟨row, between ++ file :: above⟩ =
      some ⟨⟨code, before⟩, between ++ file :: above⟩ := by
    show Position.lastBefore? _ row.before = _
    rw [hbefore, lastBefore?_gap hgap]
  rw [rowLine?, hclosest, Option.bind_some, hprevious, Option.bind_some]
  exact lineOfRow?_of_isCodeRow hcode

/-- A thread is on the path of its file. -/
theorem path?_of_isSetting (hthread : IsThread item thread.element)
    (hinRow : ∀ step ∈ inRow, Plain step.element) (h : IsSetting item row between file) :
    path? (Node.pageOf nodes) ⟨thread, inRow ++ row :: (between ++ file :: above)⟩ =
      some item.path := by
  have hclosest : (Node.pageOf nodes).closest? ((Node.pageOf nodes).hasClass · fileClass)
      ⟨thread, inRow ++ row :: (between ++ file :: above)⟩ = some ⟨file, above⟩ := by
    have hway : thread :: (inRow ++ row :: (between ++ file :: above)) =
        (thread :: inRow ++ row :: between) ++ file :: above := by simp
    refine closest?_pageOf (·.hasClass fileClass) hway (fun step hstep => ?_) ?_
    · rcases List.mem_append.mp hstep with hstep | hstep
      · exact hasClass_up_to_row hthread hinRow (by decide) (by decide) step hstep
      · rcases List.mem_cons.mp hstep with rfl | hstep
        · rw [h.threadRow.bears.hasClass (by decide)]
          rfl
        · exact (h.plain step hstep).hasClass (by decide)
    · rw [h.isFile.bears.hasClass (by decide)]
      rfl
  have hpath : (Node.pageOf nodes).attribute? ⟨file, above⟩ pathAttribute = some item.path :=
    h.isFile.path
  rw [path?, hclosest, Option.bind_some, hpath]
  simp [item.path_ne_empty]

/-! ### Reading a page -/

/-- The thread of an item, in its setting, is read as the item. -/
theorem filterMap_threadFate?_thread {element : Element} (hthread : IsThread item element)
    (before : List Node) (hinRow : ∀ step ∈ inRow, Plain step.element)
    (h : IsSetting item row between file) :
    (Node.positionsOf (inRow ++ row :: (between ++ file :: above)) before
      [element.node]).filterMap (threadFate? (Node.pageOf nodes)) = [item.fate none] := by
  have hself : threadFate? (Node.pageOf nodes)
      ⟨⟨element, before⟩, inRow ++ row :: (between ++ file :: above)⟩ =
      some (item.fate none) := by
    rw [threadFate?, hasClass_pageOf, hthread.bears.hasClass (by decide),
      fate_of_isThread hthread (path?_of_isSetting hthread hinRow h)
        (rowLine?_of_isSetting hthread hinRow h)]
    rfl
  -- The passages in the thread are no threads themselves.
  have hinside (above : List Step) : (Node.positionsOf above [] element.children).filterMap
      (threadFate? (Node.pageOf nodes)) = [] := by
    refine filterMap_of_isThread hthread (fun _ => []) threadFate?_of_plain
      (fun passage hmem inside hpassage => ?_) above
    have hother : some passage.1 ≠ some threadClass := by
      simp only [List.mem_cons, List.not_mem_nil, or_false] at hmem
      rcases hmem with rfl | rfl
      · exact (by decide : some authorClass ≠ some threadClass)
      · exact (by decide : some bodyClass ≠ some threadClass)
    rw [threadFate?_of_bears hpassage.bears hother]
    rfl
  rw [filterMap_positionsOf_node, hself, hinside]
  rfl

/-- In the row of an item there is one thread, and it is read as the item. -/
theorem filterMap_threadFate?_row (h : IsSetting item row between file) :
    (Node.positionsOf (row :: (between ++ file :: above)) [] row.element.children).filterMap
      (threadFate? (Node.pageOf nodes)) = [item.fate none] := by
  have hread : (Node.positionsOf (row :: (between ++ file :: above)) []
      row.element.children).filterMap (threadFate? (Node.pageOf nodes)) =
      [item].flatMap fun item => [item.fate none] := by
    refine h.threadRow.thread.filterMap_positionsOf _ threadFate?_of_plain
      (fun shownItem hmem segment inRow before hthread hinRow => ?_) []
    obtain rfl := List.mem_singleton.mp hmem
    obtain ⟨thread, rfl, hthread⟩ := hthread
    exact filterMap_threadFate?_thread hthread before hinRow h
  exact hread

end Setting

/-- A row of code has no threads, and neither has a gap behind it. -/
theorem filterMap_threadFate?_codeRow {line : LineNumber} {code : Element}
    (hcode : IsCodeRow line code) {gap : List Node} (hgap : ∀ node ∈ gap, IsGap node)
    (above : List Step) (before : List Node) :
    (Node.positionsOf above before (code.node :: gap)).filterMap
      (threadFate? (Node.pageOf nodes)) = [] := by
  have hgapless : Node.positionsOf above before (code.node :: gap) =
      Node.positionsOf above before [code.node] := by
    rw [Node.positionsOf_cons, Node.positionsOf_cons, positionsOf_gap hgap, Node.positionsOf_nil]
  have hself : threadFate? (Node.pageOf nodes) ⟨⟨code, before⟩, above⟩ = none :=
    threadFate?_of_plain ⟨⟨code, before⟩, above⟩ hcode.plain
  have hinside : (Node.positionsOf (⟨code, before⟩ :: above) [] code.children).filterMap
      (threadFate? (Node.pageOf nodes)) = [] := by
    refine filterMap_of_isCodeRow hcode _ (fun inside h => threadFate?_of_plain inside h.1)
      (fun inside hcell => ?_) _
    rw [threadFate?_of_plain inside hcell.plain]
    rfl
  rw [hgapless, filterMap_positionsOf_node, hself, hinside]
  rfl

/-- The rows of an item within its file have one thread, and it is read as the item. -/
theorem filterMap_threadFate?_rows {segment : List Node} (h : IsRows item segment)
    {between : List Step} (hbetween : ∀ step ∈ between, Plain step.element) {file : Step}
    (hfile : IsFile item file.element) (above : List Step) (before : List Node) :
    (Node.positionsOf (between ++ file :: above) before segment).filterMap
      (threadFate? (Node.pageOf nodes)) = [item.fate none] := by
  obtain @⟨code, row, gap, hcode, hgap, hrow⟩ := h
  -- What stands before the row of the thread is read backwards.
  have hbefore : (code.node :: gap).reverse ++ before = gap.reverse ++ code.node :: before := by
    rw [List.reverse_cons, List.append_assoc, List.singleton_append]
  have hsetting : IsSetting item ⟨row, (code.node :: gap).reverse ++ before⟩ between file :=
    ⟨hrow, ⟨code, gap.reverse, before, hcode, fun node hnode => hgap node (by simpa using hnode),
      hbefore⟩, hbetween, hfile⟩
  have hself : threadFate? (Node.pageOf nodes)
      ⟨⟨row, (code.node :: gap).reverse ++ before⟩, between ++ file :: above⟩ = none :=
    threadFate?_of_bears hrow.bears (by decide)
  rw [Node.positionsOf_append, List.filterMap_append, filterMap_threadFate?_codeRow hcode hgap,
    filterMap_positionsOf_node, hself, filterMap_threadFate?_row hsetting]
  rfl

/-- The file of an item has one thread, and it is read as the item. -/
theorem filterMap_threadFate?_file {file : Element} (hfile : IsFile item file) (above : List Step)
    (before : List Node) :
    (Node.positionsOf above before [file.node]).filterMap (threadFate? (Node.pageOf nodes)) =
      [item.fate none] := by
  have hrows : (Node.positionsOf (⟨file, before⟩ :: above) [] file.children).filterMap
      (threadFate? (Node.pageOf nodes)) = [item].flatMap fun item => [item.fate none] := by
    refine hfile.rows.filterMap_positionsOf _ threadFate?_of_plain
      (fun shownItem hmem segment between beforeRows hrows hbetween => ?_) []
    obtain rfl := List.mem_singleton.mp hmem
    exact filterMap_threadFate?_rows hrows hbetween hfile above beforeRows
  have hself : threadFate? (Node.pageOf nodes) ⟨⟨file, before⟩, above⟩ = none :=
    threadFate?_of_bears hfile.bears (by decide)
  rw [filterMap_positionsOf_node, hself, hrows]
  rfl

/-- **What is collected from a page that shows items is what becomes of the items, in order.** -/
theorem collect_of_showsItems {items : List Item} (h : ShowsItems items nodes) :
    collect (Node.pageOf nodes) = .ofFates (items.map (Item.fate none)) := by
  have hread : (Node.pageOf nodes).elements.filterMap (threadFate? (Node.pageOf nodes)) =
      items.flatMap fun item => [item.fate none] := by
    refine h.filterMap_positionsOf _ threadFate?_of_plain
      (fun item _ segment around before hfile _ => ?_) []
    obtain ⟨file, rfl, hfile⟩ := hfile
    exact filterMap_threadFate?_file hfile _ before
  rw [collect, map_fate_threads, hread, List.map_eq_flatMap]

end CodeReview.ReviewPage
