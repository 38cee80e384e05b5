import CodeReview.Proofs.Html.Laying

/-!
# CodeReview.Proofs.Html.Growing

Trees that are still open. While a text is read, every new node comes at the end of the innermost
open element. So what there is at any time are the nodes in that element, within the open
elements around it (`Opening.within`), laid down like finished trees; and one more node is one
more in that list (`Arena.appendNew_within`). Opening an element, and closing it, changes nothing
but where the next node comes.

The cells of such trees come in two parts: those up to the innermost open element, which do not
depend on what it holds but for its own ends, and those of what it holds
(`Opening.cells_within`).
-/

namespace CodeReview.Html

/-- An open element, with the nodes before it under the same parent. -/
structure Opening where
  name : String
  attributes : Attributes
  before : List Node

namespace Opening

/-- The trees that nodes make up within open elements, innermost first. -/
def within : List Opening → List Node → List Node
  | [], nodes => nodes
  | opening :: outer, nodes =>
    within outer (opening.before ++ [.element opening.name opening.attributes nodes])

/-- The number of the innermost open element, or of the document where none is open. -/
def number : List Opening → Nat
  | [] => Arena.document
  | opening :: outer => number outer + 1 + Node.countOf opening.before

end Opening

/-! ### Cells in front and behind -/

namespace Node

theorem countOf_append (nodes more : List Node) :
    countOf (nodes ++ more) = countOf nodes + countOf more := by
  induction nodes with
  | nil => simp
  | cons node nodes ih =>
    simp only [List.cons_append, countOf_cons, ih]
    omega

theorem lastOf_append_cons (id : Nat) (first : Node) (nodes : List Node) (node : Node)
    (more : List Node) : lastOf id first (nodes ++ node :: more) =
      lastOf (id + countOf (first :: nodes)) node more := by
  induction nodes generalizing id first with
  | nil => rfl
  | cons next nodes ih =>
    rw [List.cons_append, lastOf, ih, countOf_cons first, Nat.add_assoc]

theorem endsOf_append_cons (id : Nat) (nodes : List Node) (node : Node) (more : List Node) :
    endsOf id (nodes ++ node :: more) = some (id, lastOf (id + countOf nodes) node more) := by
  cases nodes with
  | nil => rfl
  | cons first nodes => rw [List.cons_append, endsOf, lastOf_append_cons]

/-- The cells of the nodes before a node do not depend on what that node holds, nor on what is
behind it. -/
theorem cellsOf_append_cons (parent : Nat) (previous : Option Nat) (id : Nat)
    (nodes : List Node) :
    ∃ (front : List Cell) (link : Option Nat), front.length = countOf nodes ∧
      ∀ (node : Node) (more : List Node), cellsOf parent previous id (nodes ++ node :: more) =
        front ++ cellsOf parent link (id + countOf nodes) (node :: more) := by
  induction nodes generalizing previous id with
  | nil => exact ⟨[], previous, rfl, fun node more => rfl⟩
  | cons head nodes ih =>
    obtain ⟨front, link, hlength, hcells⟩ := ih (some id) (id + head.count)
    refine ⟨head.cell parent previous (some (id + head.count)) id :: (head.cellsIn id ++ front),
      link, ?_, fun node more => ?_⟩
    · rw [List.length_cons, List.length_append, cellsIn_eq, length_cellsOf, hlength,
        countOf_cons, count_eq]
      omega
    · have hnext : firstOf (id + head.count) (nodes ++ node :: more) =
          some (id + head.count) := by cases nodes <;> rfl
      rw [List.cons_append, cellsOf, hcells, hnext, countOf_cons, Nat.add_assoc,
        List.cons_append, List.append_assoc]

end Node

namespace Opening

/-- The cells up to the innermost open element do not depend on what it holds, but for its ends. -/
theorem cells_within (openings : List Opening) :
    ∃ (front : List Cell) (cell : Cell), front.length = number openings ∧
      ∀ nodes, (Arena.ofNodes (within openings nodes)).cells.toList =
        front ++ { cell with ends := Node.endsOf (number openings + 1) nodes } ::
          Node.cellsOf (number openings) none (number openings + 1) nodes := by
  induction openings with
  | nil => exact ⟨[], { kind := .document }, rfl, fun nodes => rfl⟩
  | cons opening outer ih =>
    obtain ⟨front, cell, hlength, hcells⟩ := ih
    obtain ⟨between, link, hbetween, hcellsOf⟩ :=
      Node.cellsOf_append_cons (number outer) none (number outer + 1) opening.before
    refine ⟨front ++
        { cell with ends := some (number outer + 1, number (opening :: outer)) } :: between,
      { kind := .element opening.name opening.attributes, parent := some (number outer),
        previous := link }, ?_, fun nodes => ?_⟩
    · rw [List.length_append, List.length_cons, hlength, hbetween, number]
      omega
    · rw [within, hcells, Node.endsOf_append_cons, hcellsOf, List.append_assoc, List.cons_append]
      simp [number, Node.cellsOf, Node.cell, Node.cellsIn, Node.lastOf, Node.firstOf, Node.kind,
        Node.children]

/-- The cells in front of one of the nodes in the innermost open element do not depend on that
node and on those behind it, but for the ends of the element. -/
theorem cells_within_append_cons (openings : List Opening) (nodes : List Node) :
    ∃ (front between : List Cell) (cell : Cell) (link : Option Nat),
      front.length = number openings ∧ between.length = Node.countOf nodes ∧
      ∀ (node : Node) (more : List Node),
        (Arena.ofNodes (within openings (nodes ++ node :: more))).cells.toList =
          front ++
            { cell with ends := Node.endsOf (number openings + 1) (nodes ++ node :: more) } ::
              (between ++ Node.cellsOf (number openings) link
                (number openings + 1 + Node.countOf nodes) (node :: more)) := by
  obtain ⟨front, cell, hlength, hcells⟩ := cells_within openings
  obtain ⟨between, link, hbetween, hcellsOf⟩ :=
    Node.cellsOf_append_cons (number openings) none (number openings + 1) nodes
  refine ⟨front, between, cell, link, hlength, hbetween, fun node more => ?_⟩
  rw [hcells, hcellsOf]

/-- A node that holds nothing has the last cell. -/
theorem cells_within_append_leaf (openings : List Opening) (nodes : List Node) :
    ∃ (front : List Cell) (link : Option Nat),
      front.length = number openings + 1 + Node.countOf nodes ∧
      ∀ leaf : Node, leaf.children = [] →
        (Arena.ofNodes (within openings (nodes ++ [leaf]))).cells.toList =
          front ++ [leaf.cell (number openings) link none
            (number openings + 1 + Node.countOf nodes)] := by
  obtain ⟨front, between, cell, link, hlength, hbetween, hcells⟩ :=
    cells_within_append_cons openings nodes
  refine ⟨front ++ { cell with ends := some (number openings + 1,
    number openings + 1 + Node.countOf nodes) } :: between, link, ?_, fun leaf hleaf => ?_⟩
  · rw [List.length_append, List.length_cons, hlength, hbetween]
    omega
  · rw [hcells, Node.endsOf_append_cons]
    simp [Node.lastOf, Node.cellsOf, Node.firstOf, Node.cellsIn_eq, hleaf]

end Opening

/-! ### One more node -/

namespace Arena

variable {arena : Arena}

/-! #### Cells by number -/

theorem getElem?_cells_append {front back : List Cell} {cell : Cell}
    (h : arena.cells.toList = front ++ cell :: back) : arena.cells[front.length]? = some cell := by
  rw [← Array.getElem?_toList, h]
  simp

theorem toList_cells_update {front back : List Cell} {cell : Cell}
    (h : arena.cells.toList = front ++ cell :: back) (change : Cell → Cell) :
    (arena.update front.length change).cells.toList = front ++ change cell :: back := by
  rw [update, Array.toList_modify, h]
  exact List.modifyTailIdx_add (·.modifyHead change) 0 front (cell :: back)

theorem eq_of_toList_cells {other : Arena} (h : arena.cells.toList = other.cells.toList) :
    arena = other := by
  cases arena
  cases other
  exact congrArg mk (Array.toList_inj.mp h)

theorem update_create (kind : NodeKind) (change : Cell → Cell) :
    (arena.create kind).update arena.size change = ⟨arena.cells.push (change { kind })⟩ := by
  have hcells : (arena.create kind).cells.toList = arena.cells.toList ++ [{ kind := kind }] := by
    rw [create, Array.toList_push]
  apply eq_of_toList_cells
  rw [show arena.size = arena.cells.toList.length from Array.length_toList.symm,
    toList_cells_update hcells, Array.toList_push]

/-- A new node takes its place behind the last child of its parent. -/
theorem appendNew_eq {parent : Nat} (kind : NodeKind) (hparent : parent < arena.size)
    (hlast : arena.last? parent ≠ some arena.size) :
    arena.appendNew parent kind =
      ((⟨arena.cells.push { kind, parent := some parent, previous := arena.last? parent }⟩ :
          Arena).updateAt (arena.last? parent) fun cell =>
            { cell with next := some arena.size }).update parent fun cell =>
              { cell with ends := some ((cell.ends.map (·.1)).getD arena.size, arena.size) } := by
  have hkept : (arena.create kind).last? parent = arena.last? parent := by
    have hcell : (arena.create kind).cells[parent]? = arena.cells[parent]? := by
      rw [create, Array.getElem?_push]
      exact if_neg (Nat.ne_of_lt hparent)
    rw [last?, ends?, hcell]
    rfl
  have halone : (arena.create kind).detach arena.size = arena.create kind := by
    have hnone : (arena.create kind).parent? arena.size = none := by
      rw [parent?, create, size, Array.getElem?_push_size]
      rfl
    rw [detach, hnone]
  unfold appendNew append
  dsimp only
  rw [hkept, if_neg hlast, halone, update_create]

/-! #### Nodes within open elements -/

open Opening (within number)

section Within

variable (openings : List Opening) (nodes : List Node)

theorem size_ofNodes_within :
    (ofNodes (within openings nodes)).size = number openings + 1 + Node.countOf nodes := by
  obtain ⟨front, cell, hlength, hcells⟩ := Opening.cells_within openings
  rw [size, ← Array.length_toList, hcells, List.length_append, List.length_cons,
    Node.length_cellsOf, hlength]
  omega

theorem last?_ofNodes_within :
    (ofNodes (within openings nodes)).last? (number openings) =
      (Node.endsOf (number openings + 1) nodes).map (·.2) := by
  obtain ⟨front, cell, hlength, hcells⟩ := Opening.cells_within openings
  have hcell := getElem?_cells_append (hcells nodes)
  rw [hlength] at hcell
  rw [last?, ends?, hcell]
  rfl

theorem last?_ofNodes_within_append (node : Node) :
    (ofNodes (within openings (nodes ++ [node]))).last? (number openings) =
      some (number openings + 1 + Node.countOf nodes) := by
  rw [last?_ofNodes_within, Node.endsOf_append_cons]
  rfl

end Within

variable {openings : List Opening} {nodes : List Node}

theorem appendNew_within_nil {leaf : Node} (hleaf : leaf.children = []) :
    (ofNodes (within openings [])).appendNew (number openings) leaf.kind =
      ofNodes (within openings [leaf]) := by
  have hsize := size_ofNodes_within openings []
  have hlast := last?_ofNodes_within openings []
  rw [appendNew_eq _ (by omega) (by rw [hlast]; exact nofun), hlast, hsize]
  apply eq_of_toList_cells
  obtain ⟨front, cell, hlength, hcells⟩ := Opening.cells_within openings
  rw [← hlength] at hcells ⊢
  have hpushed (new : Cell) :
      (⟨(ofNodes (within openings [])).cells.push new⟩ : Arena).cells.toList =
        front ++ { cell with ends := none } :: [new] := by
    rw [Array.toList_push, hcells]
    simp [Node.endsOf, Node.cellsOf]
  rw [Node.endsOf, Option.map_none, updateAt, toList_cells_update (hpushed _), hcells]
  simp [Node.endsOf, Node.lastOf, Node.cellsOf, Node.cell, Node.cellsIn_eq, Node.firstOf, hleaf]

theorem appendNew_within_append {leaf : Node} (hleaf : leaf.children = []) (last : Node) :
    (ofNodes (within openings (nodes ++ [last]))).appendNew (number openings) leaf.kind =
      ofNodes (within openings (nodes ++ [last, leaf])) := by
  have hcount := last.count_eq
  have hsize : (ofNodes (within openings (nodes ++ [last]))).size =
      number openings + 1 + Node.countOf nodes + last.count := by
    rw [size_ofNodes_within, Node.countOf_append]
    exact (Nat.add_assoc ..).symm
  have hlast := last?_ofNodes_within_append openings nodes last
  have hne : (ofNodes (within openings (nodes ++ [last]))).last? (number openings) ≠
      some (ofNodes (within openings (nodes ++ [last]))).size := by
    rw [hlast, hsize]
    simp
    omega
  rw [appendNew_eq _ (by omega) hne, hlast, hsize]
  apply eq_of_toList_cells
  obtain ⟨front, between, cell, link, hlength, hbetween, hcells⟩ :=
    Opening.cells_within_append_cons openings nodes
  rw [← hlength] at hcells ⊢
  have hplace (cell : Cell) :
      (front ++ cell :: between).length = front.length + 1 + Node.countOf nodes := by
    rw [List.length_append, List.length_cons, hbetween]
    omega
  generalize hid : front.length + 1 + Node.countOf nodes = id at *
  have hpushed (new : Cell) :
      (⟨(ofNodes (within openings (nodes ++ [last]))).cells.push new⟩ : Arena).cells.toList =
        (front ++ { cell with ends := some (front.length + 1, id) } :: between) ++
          last.cell front.length link none id :: (last.cellsIn id ++ [new]) := by
    rw [Array.toList_push, hcells, Node.endsOf_append_cons, hid]
    simp [Node.lastOf, Node.cellsOf, Node.firstOf]
  -- The last child gets a neighbour, then the open element another last child.
  have hlinked (new : Cell) :
      ((⟨(ofNodes (within openings (nodes ++ [last]))).cells.push new⟩ : Arena).update id
          fun cell => { cell with next := some (id + last.count) }).cells.toList =
        front ++ { cell with ends := some (front.length + 1, id) } ::
          (between ++ last.cell front.length link (some (id + last.count)) id ::
            (last.cellsIn id ++ [new])) := by
    have hlinked := toList_cells_update (hpushed new) fun cell =>
      { cell with next := some (id + last.count) }
    rw [hplace, List.append_assoc, List.cons_append] at hlinked
    exact hlinked
  rw [updateAt, toList_cells_update (hlinked _), hcells, Node.endsOf_append_cons, hid]
  simp [Node.lastOf, Node.cellsOf, Node.firstOf, Node.cell, Node.cellsIn_eq, hleaf, Node.endsOf]

/-- **A new node is one more node** behind those that the innermost open element holds. -/
theorem appendNew_within {leaf : Node} (hleaf : leaf.children = []) :
    (ofNodes (within openings nodes)).appendNew (number openings) leaf.kind =
      ofNodes (within openings (nodes ++ [leaf])) := by
  rcases List.eq_nil_or_concat' nodes with rfl | ⟨nodes, last, rfl⟩
  · exact appendNew_within_nil hleaf
  · rw [appendNew_within_append hleaf, List.append_assoc]
    rfl

/-- A new element can be open: then the next nodes come in it. -/
theorem appendNew_element_within (name : String) (attributes : Attributes) :
    (ofNodes (within openings nodes)).appendNew (number openings) (.element name attributes) =
      ofNodes (within (⟨name, attributes, nodes⟩ :: openings) []) :=
  @appendNew_within openings nodes (.element name attributes []) rfl

/-! #### Texts -/

/-- A character that comes behind a text is one of that text. -/
theorem appendChar_within (content : List Char) (c : Char) :
    (ofNodes (within openings (nodes ++ [.text (String.ofList content)]))).appendChar
        (number openings) c =
      ofNodes (within openings (nodes ++ [.text (String.ofList (content ++ [c]))])) := by
  obtain ⟨front, link, hlength, hcells⟩ := Opening.cells_within_append_leaf openings nodes
  have htext (content : List Char) := hcells (.text (String.ofList content)) rfl
  have hcell := getElem?_cells_append (htext content)
  have hisText : (ofNodes (within openings (nodes ++ [.text (String.ofList content)]))).isText
      front.length = true := by
    rw [isText, hcell]
    rfl
  rw [appendChar, last?_ofNodes_within_append, ← hlength]
  dsimp only
  rw [if_pos hisText, addChar]
  apply eq_of_toList_cells
  rw [toList_cells_update (htext _), htext]
  simp [Node.cell, Node.kind, Node.children]

/-- The nodes that a text makes up. -/
def textNodes (content : List Char) : List Node :=
  if content = [] then [] else [.text (String.ofList content)]

theorem charsOf_textNodes (content : List Char) :
    Node.charsOf (textNodes content) = content := by
  rw [textNodes]
  split
  · next hnil => rw [hnil]; rfl
  · simp [Node.chars]

theorem positionsOf_textNodes (above : List Step) (before : List Node) (content : List Char) :
    Node.positionsOf above before (textNodes content) = [] := by
  rw [textNodes]
  split <;> rfl

/-- **The characters of a text gather in one node**, which the first of them makes. -/
theorem foldl_appendChar_within (content : List Char) :
    content.foldl (·.appendChar (number openings) ·) (ofNodes (within openings [])) =
      ofNodes (within openings (textNodes content)) := by
  cases content with
  | nil => rfl
  | cons c content =>
    have hfirst : (ofNodes (within openings [])).appendChar (number openings) c =
        ofNodes (within openings [.text (String.ofList [c])]) := by
      have hkind : (Node.text (String.ofList [c])).kind = .text [c] := by
        rw [Node.kind, String.toList_ofList]
        rfl
      rw [appendChar, last?_ofNodes_within, ← appendNew_within_nil rfl, hkind]
      rfl
    have hrest (letters : List Char) :
        content.foldl (·.appendChar (number openings) ·)
            (ofNodes (within openings [.text (String.ofList letters)])) =
          ofNodes (within openings [.text (String.ofList (letters ++ content))]) := by
      induction content generalizing letters with
      | nil => simp
      | cons d content ih =>
        have hnext : (ofNodes (within openings [.text (String.ofList letters)])).appendChar
            (number openings) d =
              ofNodes (within openings [.text (String.ofList (letters ++ [d]))]) :=
          @appendChar_within openings [] letters d
        rw [List.foldl_cons, hnext, ih, List.append_assoc, List.singleton_append]
    rw [List.foldl_cons, hfirst, hrest, textNodes, if_neg (List.cons_ne_nil c content)]
    rfl

end Arena

end CodeReview.Html
