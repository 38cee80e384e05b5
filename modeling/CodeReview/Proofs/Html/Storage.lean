import CodeReview.Html.Arena
import CodeReview.Html.Tree
import CodeReview.Proofs.Html.Layout
import CodeReview.Proofs.Html.Mirror

/-!
# CodeReview.Proofs.Html.Storage

Trees as they are stored. A page keeps its nodes by number, with links between them;
`Arena.Holds` says that the links of a page make up a list of trees, numbered in the order of
the text. Then the page and the trees answer alike (`Arena.Holds.mirrors`), so what is proved of
pages that are written down as trees holds of the stored ones.

An element of the tree is known by the way to it, a stored one by its number. `Arena.Way` ties
the two together: it follows the links of a node upwards and backwards and finds the steps of
the way. Downwards, `Arena.Stores.forall₂_positionsOf` finds the elements of a tree at the
numbers behind its own, and `Arena.Stores.walkFrom_eq` shows that a walk enters these numbers
one after another.
-/

namespace CodeReview.Html

/-! ### Kinds of nodes -/

namespace NodeKind

/-- The node is an element. -/
def isElement : NodeKind → Bool
  | element _ _ => true
  | _ => false

/-- The name of an element. -/
def name : NodeKind → String
  | element name _ => name
  | _ => ""

/-- The attributes of an element. -/
def attributes : NodeKind → Attributes
  | element _ attributes => attributes
  | _ => []

/-- The characters of a text. -/
def letters : NodeKind → List Char
  | text letters => letters.reverse
  | _ => []

end NodeKind

/-! ### Counting nodes -/

namespace Node

mutual

/-- The number of nodes in a node, itself included. -/
def count : Node → Nat
  | element _ _ children => countOf children + 1
  | text _ => 1
  | comment => 1
  | fragment children => countOf children + 1

/-- The number of nodes in a list of nodes. -/
def countOf : List Node → Nat
  | [] => 0
  | node :: nodes => node.count + countOf nodes

end

/-- A node without what it holds, as it is stored. -/
def kind : Node → NodeKind
  | element name attributes _ => .element name attributes
  | text content => .text content.toList.reverse
  | comment => .comment
  | fragment _ => .fragment

/-- The nodes that a node holds. -/
def children : Node → List Node
  | element _ _ children => children
  | text _ => []
  | comment => []
  | fragment children => children

theorem count_eq (node : Node) : node.count = countOf node.children + 1 := by
  cases node <;> rfl

/-- The characters of a node are its own, and those of the nodes that it holds. -/
theorem chars_eq (node : Node) : node.chars = node.kind.letters ++ charsOf node.children := by
  cases node <;> simp [kind, children, chars, NodeKind.letters]

@[simp] theorem countOf_nil : countOf [] = 0 := rfl

@[simp] theorem countOf_cons (node : Node) (nodes : List Node) :
    countOf (node :: nodes) = node.count + countOf nodes := rfl

/-- The numbers of nodes are that of the first one, those in it, and those of the others. -/
theorem range'_countOf_cons (id : Nat) (node : Node) (nodes : List Node) :
    List.range' id (countOf (node :: nodes)) =
      id :: (List.range' (id + 1) (countOf node.children) ++
        List.range' (id + node.count) (countOf nodes)) := by
  rw [countOf_cons, ← List.range'_append_1, count_eq, List.range'_succ, List.cons_append]

/-- The number of the first of nodes that are numbered from `id` on. -/
def firstOf (id : Nat) : List Node → Option Nat
  | [] => none
  | _ :: _ => some id

end Node

namespace Arena

variable {arena : Arena}

/-! ### Stored trees -/

/-- The kind of a node. -/
def kind? (arena : Arena) (id : Nat) : Option NodeKind := arena.cells[id]?.map (·.kind)

/-- The nodes are stored from number `id` on, each before what it holds and that before the
next one, as children of `parent` behind the child `previous`. -/
inductive Stores (arena : Arena) : Nat → Option Nat → Nat → List Node → Prop
  | nil {parent id : Nat} {previous : Option Nat} : Stores arena parent previous id []
  | cons {parent id : Nat} {previous : Option Nat} {node : Node} {nodes : List Node} :
      arena.kind? id = some node.kind →
      arena.parent? id = some parent → arena.previous? id = previous →
      arena.next? id = Node.firstOf (id + node.count) nodes →
      arena.first? id = Node.firstOf (id + 1) node.children →
      Stores arena id none (id + 1) node.children →
      Stores arena parent (some id) (id + node.count) nodes →
      Stores arena parent previous id (node :: nodes)

/-- The node is stored with the number, whatever is around it. -/
structure StoresAt (arena : Arena) (id : Nat) (node : Node) : Prop where
  kind : arena.kind? id = some node.kind
  first : arena.first? id = Node.firstOf (id + 1) node.children
  children : arena.Stores id none (id + 1) node.children
  fits : id + node.count ≤ arena.size

/-- The page holds the trees, numbered behind its document, and nothing else. -/
structure Holds (arena : Arena) (nodes : List Node) : Prop where
  root : arena.isElement document = false
  stores : arena.Stores document none 1 nodes
  size : arena.size = Node.countOf nodes + 1

/-! ### Kinds by number -/

theorem isElement_of_kind? {id : Nat} {kind : NodeKind} (h : arena.kind? id = some kind) :
    arena.isElement id = kind.isElement := by
  obtain ⟨⟨cellKind, _, _, _, _⟩, hcell, rfl⟩ := Option.map_eq_some_iff.mp h
  rw [isElement, hcell]
  cases cellKind <;> rfl

theorem letters_of_kind? {id : Nat} {kind : NodeKind} (h : arena.kind? id = some kind) :
    arena.letters id = kind.letters := by
  obtain ⟨⟨cellKind, _, _, _, _⟩, hcell, rfl⟩ := Option.map_eq_some_iff.mp h
  rw [letters, hcell]
  cases cellKind <;> rfl

theorem name_of_kind? {id : Nat} {kind : NodeKind} (h : arena.kind? id = some kind) :
    arena.name id = kind.name := by
  obtain ⟨⟨cellKind, _, _, _, _⟩, hcell, rfl⟩ := Option.map_eq_some_iff.mp h
  rw [name, hcell]
  cases cellKind <;> rfl

theorem attributes_of_kind? {id : Nat} {kind : NodeKind} (h : arena.kind? id = some kind) :
    arena.attributes id = kind.attributes := by
  obtain ⟨⟨cellKind, _, _, _, _⟩, hcell, rfl⟩ := Option.map_eq_some_iff.mp h
  rw [attributes, hcell]
  cases cellKind <;> rfl

/-! ### Walking down -/

/-- The stage at which a walk comes to nodes that are numbered from `id` on: it enters the first
one, or leaves their parent if there is none. -/
def Stage.begin (parent id : Nat) : List Node → Stage
  | [] => .leave parent
  | _ :: _ => .enter id

theorem Stage.next?_enter {root id : Nat} {nodes : List Node}
    (h : arena.first? id = Node.firstOf (id + 1) nodes) :
    (Stage.enter id).next? arena root = some (.begin id (id + 1) nodes) := by
  rw [Stage.next?, h]
  cases nodes <;> rfl

theorem Stage.next?_leave {root parent id next : Nat} {nodes : List Node} (hroot : id ≠ root)
    (hparent : arena.parent? id = some parent) (hnext : arena.next? id = Node.firstOf next nodes) :
    (Stage.leave id).next? arena root = some (.begin parent next nodes) := by
  rw [Stage.next?, if_neg hroot, hnext, hparent]
  cases nodes <;> rfl

theorem walkFrom_enter {root id steps : Nat} {stage : Stage} {entered : List Nat}
    (h : (Stage.enter id).next? arena root = some stage) :
    arena.walkFrom root (steps + 1) (.enter id) entered =
      arena.walkFrom root steps stage (id :: entered) := by
  rw [walkFrom, h]

theorem walkFrom_leave {root id steps : Nat} {stage : Stage} {entered : List Nat}
    (h : (Stage.leave id).next? arena root = some stage) :
    arena.walkFrom root (steps + 1) (.leave id) entered =
      arena.walkFrom root steps stage entered := by
  rw [walkFrom, h]

/-- A walk through stored nodes enters each of them, in order, and comes out at their parent. It
has two stages for each node. -/
theorem Stores.walkFrom_eq {parent id : Nat} {previous : Option Nat} {nodes : List Node}
    (h : arena.Stores parent previous id nodes) {root : Nat} (hroot : root < id) (steps : Nat)
    (entered : List Nat) :
    arena.walkFrom root (2 * Node.countOf nodes + steps) (.begin parent id nodes) entered =
      arena.walkFrom root steps (.leave parent)
        ((List.range' id (Node.countOf nodes)).reverse ++ entered) := by
  induction h generalizing steps entered with
  | nil => simp [Stage.begin]
  | @cons parent id previous node nodes _ hparent _ hnext hfirst _ _ ihchildren ihnodes =>
    -- One step enters the node, one leaves it; the children take theirs in between.
    have hsteps : 2 * Node.countOf (node :: nodes) + steps =
        2 * Node.countOf node.children + (2 * Node.countOf nodes + steps + 1) + 1 := by
      rw [Node.countOf_cons, Node.count_eq]
      omega
    show arena.walkFrom root _ (.enter id) entered = _
    rw [hsteps, walkFrom_enter (Stage.next?_enter hfirst), ihchildren (by omega),
      walkFrom_leave (Stage.next?_leave (by omega) hparent hnext), ihnodes (by omega),
      Node.range'_countOf_cons]
    simp

theorem StoresAt.walk_eq {id : Nat} {node : Node} (h : arena.StoresAt id node) :
    arena.walk id = List.range' id node.count := by
  have hfits := h.fits
  have hsteps : 2 * arena.size =
      2 * Node.countOf node.children + (2 * (arena.size - node.count) + 1) + 1 := by
    rw [Node.count_eq] at hfits ⊢
    omega
  have hend : (Stage.leave id).next? arena id = none := by
    rw [Stage.next?, if_pos rfl]
  rw [walk, hsteps, walkFrom_enter (Stage.next?_enter h.first),
    h.children.walkFrom_eq (Nat.lt_succ_self id), walkFrom, hend, Node.count_eq, List.range'_succ]
  simp

/-! ### Texts -/

theorem Stores.flatMap_letters {parent id : Nat} {previous : Option Nat} {nodes : List Node}
    (h : arena.Stores parent previous id nodes) :
    (List.range' id (Node.countOf nodes)).flatMap arena.letters = Node.charsOf nodes := by
  induction h with
  | nil => rfl
  | @cons parent id previous node nodes hkind _ _ _ _ _ _ ihchildren ihnodes =>
    rw [Node.range'_countOf_cons, List.flatMap_cons, List.flatMap_append, ihchildren, ihnodes,
      letters_of_kind? hkind, Node.charsOf_cons, Node.chars_eq, List.append_assoc]

theorem StoresAt.flatMap_letters {id : Nat} {node : Node} (h : arena.StoresAt id node) :
    (arena.walk id).flatMap arena.letters = node.chars := by
  rw [h.walk_eq, Node.count_eq, List.range'_succ, List.flatMap_cons, letters_of_kind? h.kind,
    h.children.flatMap_letters, Node.chars_eq]

/-! ### The way to a stored element -/

/-- The nodes are stored before a node, nearest first, behind the link to the one before it. -/
inductive Before (arena : Arena) (parent : Option Nat) : Option Nat → List Node → Prop
  | nil : Before arena parent none []
  | cons {id : Nat} {node : Node} {before : List Node} :
      arena.StoresAt id node → arena.parent? id = parent →
      (∀ {number}, parent = some number → number < id) →
      (∀ {number}, arena.previous? id = some number → number < id) →
      Before arena parent (arena.previous? id) before →
      Before arena parent (some id) (node :: before)

/-- The steps are stored above a node, nearest first, behind the link to its parent. -/
inductive Way (arena : Arena) : Option Nat → List Step → Prop
  | top {parent : Option Nat} :
      (∀ {id}, parent = some id → arena.isElement id = false) → Way arena parent []
  | step {id : Nat} {step : Step} {above : List Step} :
      arena.StoresAt id step.element.node →
      (∀ {number}, arena.parent? id = some number → number < id) →
      (∀ {number}, arena.previous? id = some number → number < id) →
      arena.Before (arena.parent? id) (arena.previous? id) step.before →
      Way arena (arena.parent? id) above → Way arena (some id) (step :: above)

/-- The number is that of the element to which the way leads. -/
def Names (arena : Arena) (id : Nat) (position : Position) : Prop :=
  arena.Way (some id) (position.here :: position.above)

theorem isElement_of_storesAt {id : Nat} {element : Element} (h : arena.StoresAt id element.node) :
    arena.isElement id = true := isElement_of_kind? h.kind

/-- The elements above a node are those of its way. Links lead to smaller numbers, so the number
of the node is enough steps. -/
theorem Way.forall₂_above {id : Nat} {above : List Step} (h : arena.Way (arena.parent? id) above)
    (hparent : ∀ {number}, arena.parent? id = some number → number < id) {steps : Nat}
    (hsteps : id ≤ steps) :
    List.Forall₂ arena.Names (arena.above steps id) (Position.ofSteps above) := by
  generalize hlink : arena.parent? id = link at h
  induction h generalizing id steps with
  | top hno =>
    have hnothing : arena.above steps id = [] := by
      cases steps with
      | zero => rfl
      | succ steps =>
        rw [Arena.above, hlink]
        split
        · next number => rw [hno rfl, if_neg Bool.false_ne_true]
        · rfl
    rw [hnothing]
    exact .nil
  | @step number step above hstores hparents hpreviouses hbefore hway ih =>
    have hless : number < id := hparent hlink
    obtain ⟨steps, rfl⟩ : ∃ more, steps = more + 1 := ⟨steps - 1, by omega⟩
    rw [Arena.above, hlink]
    dsimp only
    rw [if_pos (isElement_of_storesAt hstores)]
    exact .cons (.step hstores hparents hpreviouses hbefore hway)
      (ih hparents (by omega) rfl)

theorem Before.rel_elementBefore? {id : Nat} {parent : Option Nat} {before : List Node}
    {above : List Step} (h : arena.Before parent (arena.previous? id) before)
    (hway : arena.Way parent above)
    (hprevious : ∀ {number}, arena.previous? id = some number → number < id) {steps : Nat}
    (hsteps : id ≤ steps) :
    Option.Rel arena.Names (arena.elementBefore? steps id)
      (Position.lastBefore? above before) := by
  generalize hlink : arena.previous? id = link at h
  induction h generalizing id steps with
  | nil =>
    have hnothing : arena.elementBefore? steps id = none := by
      cases steps with
      | zero => rfl
      | succ steps => rw [elementBefore?, hlink]
    rw [hnothing]
    exact .none
  | @cons number node before hstores hparent hparents hpreviouses hbefore ih =>
    have hless : number < id := hprevious hlink
    obtain ⟨steps, rfl⟩ : ∃ more, steps = more + 1 := ⟨steps - 1, by omega⟩
    have hrest : Option.Rel arena.Names (arena.elementBefore? steps number)
        (Position.lastBefore? above before) := ih hpreviouses (by omega) rfl
    rw [elementBefore?, hlink]
    dsimp only
    rw [isElement_of_kind? hstores.kind]
    subst hparent
    cases node with
    | element name attributes children =>
      exact .some (.step hstores hparents hpreviouses hbefore hway)
    | text content => exact hrest
    | comment => exact hrest
    | fragment children => exact hrest

/-- The elements among stored nodes are those of the nodes, in order. -/
theorem Stores.forall₂_positionsOf {parent id : Nat} {previous : Option Nat} {nodes : List Node}
    (h : arena.Stores parent previous id nodes) (hparent : parent < id)
    (hprevious : ∀ {number}, previous = some number → number < id)
    (hfits : id + Node.countOf nodes ≤ arena.size) {above : List Step} {before : List Node}
    (hway : arena.Way (some parent) above) (hbefore : arena.Before (some parent) previous before) :
    List.Forall₂ arena.Names
      ((List.range' id (Node.countOf nodes)).filter arena.isElement)
      (Node.positionsOf above before nodes) := by
  induction h generalizing above before with
  | nil => exact .nil
  | @cons parent id previous node nodes hkind hlink hback hnext hfirst hchildren _ ihchildren
      ihnodes =>
    rw [Node.countOf_cons] at hfits
    have hcount := node.count_eq
    have hstores : arena.StoresAt id node := ⟨hkind, hfirst, hchildren, by omega⟩
    have hparents : ∀ {number}, arena.parent? id = some number → number < id := by
      intro number hnumber
      rw [hlink] at hnumber
      exact Option.some.inj hnumber ▸ hparent
    have hpreviouses : ∀ {number}, arena.previous? id = some number → number < id := by
      intro number hnumber
      exact hprevious (hback ▸ hnumber)
    have hinside : ∀ {above : List Step}, arena.Way (some id) above →
        List.Forall₂ arena.Names
          ((List.range' (id + 1) (Node.countOf node.children)).filter arena.isElement)
          (Node.positionsOf above [] node.children) :=
      fun hway => ihchildren (by omega) (fun h => nomatch h) (by omega) hway .nil
    have hrest := ihnodes (by omega) (fun h => by cases h; omega) (by omega) hway
      (.cons hstores hlink (fun h => by cases h; exact hparent) hpreviouses (hback ▸ hbefore))
    have hnode : List.Forall₂ arena.Names
        ((id :: List.range' (id + 1) (Node.countOf node.children)).filter arena.isElement)
        (node.positions above before) := by
      cases node with
      | element name attributes children =>
        have hhere : arena.Way (some id) (⟨⟨name, attributes, children⟩, before⟩ :: above) :=
          .step hstores hparents hpreviouses (hlink ▸ hback ▸ hbefore) (hlink ▸ hway)
        rw [List.filter_cons_of_pos (isElement_of_kind? hkind)]
        exact .cons hhere (hinside hhere)
      | text content =>
        rw [List.filter_cons_of_neg (by rw [isElement_of_kind? hkind]; exact Bool.false_ne_true)]
        exact .nil
      | comment =>
        rw [List.filter_cons_of_neg (by rw [isElement_of_kind? hkind]; exact Bool.false_ne_true)]
        exact .nil
      | fragment children =>
        -- A fragment is no element, so the way up from inside it ends below it.
        rw [List.filter_cons_of_neg (by rw [isElement_of_kind? hkind]; exact Bool.false_ne_true)]
        exact hinside (.top fun h => by cases h; exact isElement_of_kind? hkind)
    rw [Node.range'_countOf_cons, ← List.cons_append, List.filter_append, Node.positionsOf_cons]
    exact List.rel_append hnode hrest

/-! ### Stored pages -/

theorem Stores.isSome_parent? {parent id : Nat} {previous : Option Nat} {nodes : List Node}
    (h : arena.Stores parent previous id nodes) {number : Nat}
    (hnumber : number ∈ List.range' id (Node.countOf nodes)) :
    (arena.parent? number).isSome = true := by
  induction h with
  | nil => simp at hnumber
  | cons _ hlink _ _ _ _ _ ihchildren ihnodes =>
    rw [Node.range'_countOf_cons, List.mem_cons, List.mem_append] at hnumber
    rcases hnumber with rfl | hnumber | hnumber
    · rw [hlink]
      rfl
    · exact ihchildren hnumber
    · exact ihnodes hnumber

theorem Names.storesAt {id : Nat} {position : Position} (h : arena.Names id position) :
    arena.StoresAt id position.here.element.node := by
  cases h with
  | step hstores => exact hstores

theorem Names.le_size {id : Nat} {position : Position} (h : arena.Names id position) :
    id ≤ arena.size := by
  have hfits := h.storesAt.fits
  omega

/-- The elements inside a stored node have the numbers behind its own. -/
theorem StoresAt.inner_eq {id : Nat} {node : Node} (h : arena.StoresAt id node) :
    arena.page.inner id =
      (List.range' (id + 1) (Node.countOf node.children)).filter arena.isElement := by
  show ((arena.walk id).drop 1).filter arena.isElement = _
  rw [h.walk_eq, Node.count_eq, List.range'_succ, List.drop_succ_cons, List.drop_zero]

/-- The elements inside a stored element are those inside the element, in order. -/
theorem Names.forall₂_inner {id : Nat} {position : Position} (h : arena.Names id position) :
    List.Forall₂ arena.Names (arena.page.inner id)
      (Node.positionsOf (position.here :: position.above) [] position.here.element.children) := by
  have hstores := h.storesAt
  have hfits := hstores.fits
  rw [Node.count_eq] at hfits
  rw [hstores.inner_eq]
  exact hstores.children.forall₂_positionsOf (Nat.lt_succ_self id) (fun h => nomatch h)
    (by omega) h .nil

/-- The elements of a page that holds trees have the numbers behind the document. -/
theorem Holds.elements_eq {nodes : List Node} (h : arena.Holds nodes) :
    arena.page.elements = (List.range' 1 (Node.countOf nodes)).filter arena.isElement := by
  show (List.range arena.size).filter _ = _
  rw [h.size, List.range_eq_range', List.range'_succ,
    List.filter_cons_of_neg (by rw [show arena.isElement 0 = false from h.root]; simp)]
  refine List.filter_congr fun id hid => ?_
  rw [h.stores.isSome_parent? hid, Bool.and_true]

/-- The elements of a page that holds trees are those of the trees, in order. -/
theorem Holds.forall₂_elements {nodes : List Node} (h : arena.Holds nodes) :
    List.Forall₂ arena.Names arena.page.elements (Node.pageOf nodes).elements := by
  rw [h.elements_eq]
  exact h.stores.forall₂_positionsOf (by decide) (fun h => nomatch h) (by rw [h.size]; omega)
    (.top fun hid => Option.some.inj hid ▸ h.root) .nil

/-- The first number behind that of the document is that of the first node. -/
theorem Holds.names_first {element : Element} {nodes : List Node}
    (h : arena.Holds (element.node :: nodes)) : arena.Names 1 ⟨⟨element, []⟩, []⟩ := by
  have hfirst : arena.isElement 1 = true := by
    cases h.stores with
    | cons hkind => exact isElement_of_kind? hkind
  have helements := h.forall₂_elements
  rw [h.elements_eq, Node.range'_countOf_cons, List.filter_cons_of_pos hfirst] at helements
  cases helements with
  | cons hnames => exact hnames

/-- **A page that holds trees answers like the trees.** -/
theorem Holds.mirrors {nodes : List Node} (h : arena.Holds nodes) :
    arena.page.Mirrors (Node.pageOf nodes) arena.Names where
  elements := h.forall₂_elements
  name hab := name_of_kind? hab.storesAt.kind
  attributes hab := attributes_of_kind? hab.storesAt.kind
  chars hab := hab.storesAt.flatMap_letters
  inner hab := hab.forall₂_inner
  above hab := by
    have hsteps := hab.le_size
    cases hab with
    | step _ hparents _ _ hway => exact hway.forall₂_above hparents hsteps
  previous? hab := by
    have hsteps := hab.le_size
    cases hab with
    | step _ _ hpreviouses hbefore hway =>
      exact hbefore.rel_elementBefore? hway hpreviouses hsteps

end Arena

end CodeReview.Html
