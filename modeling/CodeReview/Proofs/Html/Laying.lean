import CodeReview.Html.Parser
import CodeReview.Proofs.Html.Storage

/-!
# CodeReview.Proofs.Html.Laying

Every list of trees is held by a page: `Arena.ofNodes` lays the nodes down in the order of the
text and links each to its parent, its neighbours and its first and last child. This is what
reading a text comes to, as long as nothing in it is repaired or moved.
-/

namespace CodeReview.Html

namespace Node

/-- The number of the last one of a node with number `id` and the nodes behind it. -/
def lastOf (id : Nat) (node : Node) : List Node → Nat
  | [] => id
  | next :: nodes => lastOf (id + node.count) next nodes

/-- The numbers of the first and the last of nodes that are numbered from `id` on. -/
def endsOf (id : Nat) : List Node → Option (Nat × Nat)
  | [] => none
  | node :: nodes => some (id, lastOf id node nodes)

theorem map_fst_endsOf (id : Nat) (nodes : List Node) :
    (endsOf id nodes).map (·.1) = firstOf id nodes := by
  cases nodes <;> rfl

/-- What is stored of a node with number `id`, apart from what it holds. -/
def cell (parent : Nat) (previous next : Option Nat) (id : Nat) (node : Node) : Cell where
  kind := node.kind
  parent := some parent
  previous := previous
  next := next
  ends := endsOf (id + 1) node.children

mutual

/-- What is stored of the nodes in the node with number `id`. -/
def cellsIn (id : Nat) : Node → List Cell
  | element _ _ children => cellsOf id none (id + 1) children
  | text _ => []
  | comment => []
  | fragment children => cellsOf id none (id + 1) children

/-- What is stored of nodes that are numbered from `id` on, as children of `parent` behind the
child `previous`. -/
def cellsOf (parent : Nat) (previous : Option Nat) (id : Nat) : List Node → List Cell
  | [] => []
  | node :: nodes =>
    node.cell parent previous (firstOf (id + node.count) nodes) id ::
      (node.cellsIn id ++ cellsOf parent (some id) (id + node.count) nodes)

end

theorem cellsIn_eq (id : Nat) (node : Node) :
    node.cellsIn id = cellsOf id none (id + 1) node.children := by
  cases node <;> rfl

theorem length_cellsOf (parent : Nat) (previous : Option Nat) (id : Nat) (nodes : List Node) :
    (cellsOf parent previous id nodes).length = countOf nodes := by
  match nodes with
  | [] => rfl
  | node :: nodes =>
    rw [cellsOf, cellsIn_eq, List.length_cons, List.length_append,
      length_cellsOf id none (id + 1) node.children, length_cellsOf parent _ _ nodes,
      countOf_cons, count_eq]
    omega
termination_by countOf nodes
decreasing_by
  all_goals
    have hcount := count_eq node
    rw [countOf_cons]
    omega

end Node

/-- The page that holds the trees. -/
def Arena.ofNodes (nodes : List Node) : Arena :=
  ⟨({ kind := .document, ends := Node.endsOf 1 nodes } ::
    Node.cellsOf document none 1 nodes).toArray⟩

namespace Arena

/-- Cells that are laid down at their numbers store the nodes. -/
theorem stores_of_cells {arena : Arena} {parent id : Nat} {previous : Option Nat}
    {nodes : List Node} {first last : List Cell} (hid : first.length = id)
    (hcells : arena.cells.toList = first ++ (Node.cellsOf parent previous id nodes ++ last)) :
    arena.Stores parent previous id nodes := by
  match nodes with
  | [] => exact .nil
  | node :: nodes =>
    -- The cell of the first node is named, so that the lists around it stay readable.
    obtain ⟨cell, hcell⟩ : ∃ cell, cell = node.cell parent previous
        (Node.firstOf (id + node.count) nodes) id := ⟨_, rfl⟩
    rw [Node.cellsOf, Node.cellsIn_eq, ← hcell] at hcells
    have hfind : arena.cells[id]? = some cell := by
      rw [← Array.getElem?_toList, hcells, ← hid, List.getElem?_append_right (Nat.le_refl _),
        Nat.sub_self]
      rfl
    have hchildren : arena.Stores id none (id + 1) node.children := by
      have hbehind : arena.cells.toList = (first ++ [cell]) ++
          (Node.cellsOf id none (id + 1) node.children ++
            (Node.cellsOf parent (some id) (id + node.count) nodes ++ last)) := by
        rw [hcells]
        simp
      exact stores_of_cells (by simp [hid]) hbehind
    have hnodes : arena.Stores parent (some id) (id + node.count) nodes := by
      have hbehind : arena.cells.toList =
          (first ++ cell :: Node.cellsOf id none (id + 1) node.children) ++
            (Node.cellsOf parent (some id) (id + node.count) nodes ++ last) := by
        rw [hcells]
        simp
      refine stores_of_cells ?_ hbehind
      rw [List.length_append, List.length_cons, Node.length_cellsOf, hid, Node.count_eq]
    subst hcell
    refine .cons ?_ ?_ ?_ ?_ ?_ hchildren hnodes
    · rw [kind?, hfind]
      rfl
    · rw [parent?, hfind]
      rfl
    · rw [previous?, hfind]
      rfl
    · rw [next?, hfind]
      rfl
    · rw [first?, ends?, hfind]
      exact Node.map_fst_endsOf _ _
termination_by Node.countOf nodes
decreasing_by
  all_goals
    have hcount := node.count_eq
    rw [Node.countOf_cons]
    omega

/-- **Every list of trees is held by a page.** -/
theorem holds_ofNodes (nodes : List Node) : (ofNodes nodes).Holds nodes where
  root := rfl
  stores := by
    have hcells : (ofNodes nodes).cells.toList =
        [{ kind := .document, ends := Node.endsOf 1 nodes }] ++
          (Node.cellsOf document none 1 nodes ++ []) := by
      rw [List.append_nil]
      rfl
    exact stores_of_cells rfl hcells
  size := by simp [Arena.size, ofNodes, Node.length_cellsOf]

/-- Reading a text lays down the trees that it spells. -/
example : (Builder.forPage.read "<p>a<b>c</b>d</p><!-- e -->").arena =
    ofNodes [.element "html" [] [.element "head" [] [],
      .element "body" [] [.element "p" [] [.text "a", .element "b" [] [.text "c"], .text "d"],
        .comment]]] := by
  decide +kernel

end Arena

end CodeReview.Html
