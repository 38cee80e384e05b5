import CodeReview.Html.Tree

/-!
# CodeReview.Proofs.Html.Layout

Pages that show a list of values, whatever is around them.

`Shows quiet part values nodes` says that the nodes show the values in order. The nodes of a
value are known by `part`; between them stand texts, comments and elements that `quiet`
allows, and any depth of such elements may be around them. Whoever reads the elements of such
a page and passes over the quiet ones reads the values, one after another
(`Shows.filterMap_positionsOf`); whoever climbs from a value meets the quiet elements around
it first (`find?_ofSteps_append`).
-/

namespace CodeReview.Html

/-! ### Elements by themselves -/

namespace Element

/-- The element as a node. -/
def node (element : Element) : Node :=
  .element element.name element.attributes element.children

/-- The value of an attribute. -/
def attribute? (element : Element) (name : String) : Option String :=
  element.attributes.lookup name

/-- The element has the class. -/
def hasClass (element : Element) (name : String) : Bool :=
  ((Text.words ((element.attribute? "class").getD "").toList).map String.ofList).contains name

end Element

/-- What a page says about the attributes and classes of an element is written at it. -/
@[simp] theorem attribute?_pageOf (nodes : List Node) (position : Position) (name : String) :
    (Node.pageOf nodes).attribute? position name = position.here.element.attribute? name := rfl

@[simp] theorem hasClass_pageOf (nodes : List Node) (position : Position) (name : String) :
    (Node.pageOf nodes).hasClass position name = position.here.element.hasClass name := rfl

theorem positionsOf_node (above : List Step) (before : List Node) (element : Element) :
    Node.positionsOf above before [element.node] =
      ⟨⟨element, before⟩, above⟩ ::
        Node.positionsOf (⟨element, before⟩ :: above) [] element.children := by
  rw [Node.positionsOf_cons, Node.positionsOf_nil, List.append_nil]
  rfl

variable {α β : Type}

/-- What is read off an element comes before what is read off inside it. -/
theorem filterMap_positionsOf_node (read : Position → Option β) (above : List Step)
    (before : List Node) (element : Element) :
    (Node.positionsOf above before [element.node]).filterMap read =
      (read ⟨⟨element, before⟩, above⟩).toList ++
        (Node.positionsOf (⟨element, before⟩ :: above) [] element.children).filterMap read := by
  rw [positionsOf_node, List.filterMap_cons]
  cases read ⟨⟨element, before⟩, above⟩ <;> rfl

/-! ### Pages that show values -/

variable {quiet : Element → Prop} {part : α → List Node → Prop}

/-- The nodes show the values in order, between quiet elements and within such. -/
inductive Shows (quiet : Element → Prop) (part : α → List Node → Prop) :
    List α → List Node → Prop
  | nil : Shows quiet part [] []
  | text {content : String} {values : List α} {nodes : List Node} :
      Shows quiet part values nodes → Shows quiet part values (.text content :: nodes)
  | comment {values : List α} {nodes : List Node} :
      Shows quiet part values nodes → Shows quiet part values (.comment :: nodes)
  /-- A quiet element, with the values that it holds. -/
  | within {name : String} {attributes : Attributes} {children nodes : List Node}
      {inner values : List α} :
      quiet ⟨name, attributes, children⟩ → Shows quiet part inner children →
      Shows quiet part values nodes →
      Shows quiet part (inner ++ values) (.element name attributes children :: nodes)
  /-- The nodes of one value. -/
  | value {value : α} {segment : List Node} {values : List α} {nodes : List Node} :
      part value segment → Shows quiet part values nodes →
      Shows quiet part (value :: values) (segment ++ nodes)

/-- The nodes show nothing. -/
def Bare (quiet : Element → Prop) (nodes : List Node) : Prop :=
  Shows quiet (fun (_ : Empty) _ => False) [] nodes

/-- A value is shown by one element. -/
def Single (kind : α → Element → Prop) (value : α) (segment : List Node) : Prop :=
  ∃ element : Element, segment = [element.node] ∧ kind value element

/-- A quiet element that stands alone shows what is in it. -/
theorem Shows.within_singleton {name : String} {attributes : Attributes} {children : List Node}
    {values : List α} (hquiet : quiet ⟨name, attributes, children⟩)
    (h : Shows quiet part values children) :
    Shows quiet part values [.element name attributes children] := by
  rw [← List.append_nil values]
  exact .within hquiet h .nil

theorem Shows.single {kind : α → Element → Prop} {value : α} {element : Element}
    (hvalue : kind value element) {values : List α} {nodes : List Node}
    (h : Shows quiet (Single kind) values nodes) :
    Shows quiet (Single kind) (value :: values) (element.node :: nodes) :=
  .value ⟨element, rfl, hvalue⟩ h

/-- Elements that show a value each show the values. -/
theorem Shows.of_forall {kind : α → Element → Prop} {element : α → Element}
    (h : ∀ value, kind value (element value)) (values : List α) :
    Shows quiet (Single kind) values (values.map fun value => (element value).node) := by
  induction values with
  | nil => exact .nil
  | cons value values ih => exact .single (h value) ih

/-- **Reading off what is shown.** A reader that passes over quiet elements reads the values
in order, if it reads each of them off its nodes wherever these stand. The induction is on the
page; the elements above grow by the quiet element that is entered. -/
theorem Shows.filterMap_positionsOf {values : List α} {nodes : List Node}
    (h : Shows quiet part values nodes) {read : Position → Option β} (shown : α → List β)
    (hquiet : ∀ position : Position, quiet position.here.element → read position = none)
    {above : List Step}
    (hpart : ∀ value ∈ values, ∀ (segment : List Node) (around : List Step) (before : List Node),
      part value segment → (∀ step ∈ around, quiet step.element) →
      (Node.positionsOf (around ++ above) before segment).filterMap read = shown value)
    (before : List Node) :
    (Node.positionsOf above before nodes).filterMap read = values.flatMap shown := by
  induction h generalizing above before with
  | nil => rfl
  | text _ ih =>
    rw [Node.positionsOf_cons]
    exact ih hpart _
  | comment _ ih =>
    rw [Node.positionsOf_cons]
    exact ih hpart _
  | @within name attributes children nodes inner values helement _ _ ihinner ih =>
    have hinner : (Node.positionsOf (⟨⟨name, attributes, children⟩, before⟩ :: above) []
        children).filterMap read = inner.flatMap shown := by
      refine ihinner (fun value hmem segment around before' hvalue haround => ?_) []
      -- Seen from a value in the element, the element is the last of those around.
      rw [List.append_cons]
      refine hpart value (List.mem_append_left _ hmem) segment _ before' hvalue fun step hstep => ?_
      rcases List.mem_append.mp hstep with hstep | hstep
      · exact haround step hstep
      · rw [List.mem_singleton.mp hstep]
        exact helement
    have hrest := ih (fun value hmem => hpart value (List.mem_append_right _ hmem))
      (.element name attributes children :: before)
    rw [Node.positionsOf_cons, List.filterMap_append, hrest, List.flatMap_append, ← hinner]
    congr 1
    exact List.filterMap_cons_none (hquiet _ helement)
  | @value value segment values nodes hvalue _ ih =>
    have hsegment : (Node.positionsOf above before segment).filterMap read = shown value :=
      hpart value List.mem_cons_self segment [] before hvalue (by simp)
    have hrest := ih (fun value hmem => hpart value (List.mem_cons_of_mem _ hmem))
      (segment.reverse ++ before)
    rw [Node.positionsOf_append, List.filterMap_append, hsegment, hrest, List.flatMap_cons]

theorem Bare.filterMap_positionsOf {nodes : List Node} (h : Bare quiet nodes)
    {read : Position → Option β}
    (hquiet : ∀ position : Position, quiet position.here.element → read position = none)
    (above : List Step) (before : List Node) :
    (Node.positionsOf above before nodes).filterMap read = [] := by
  have hread : (Node.positionsOf above before nodes).filterMap read =
      ([] : List Empty).flatMap fun _ => ([] : List β) :=
    Shows.filterMap_positionsOf h _ hquiet (fun value => value.elim) before
  exact hread

/-! ### The way up -/

/-- Whoever climbs from within quiet elements and looks for something else passes over
them. -/
theorem find?_ofSteps_append {sought : Element → Bool} {around : List Step}
    (haround : ∀ step ∈ around, sought step.element = false) (above : List Step) :
    (Position.ofSteps (around ++ above)).find? (fun position => sought position.here.element) =
      (Position.ofSteps above).find? fun position => sought position.here.element := by
  induction around with
  | nil => rfl
  | cons step around ih =>
    rw [List.cons_append, Position.ofSteps,
      List.find?_cons_of_neg (by simp [haround step List.mem_cons_self])]
    exact ih fun step hstep => haround step (List.mem_cons_of_mem _ hstep)

/-- The nearest element of a kind, where the elements up to it are not of the kind. -/
theorem closest?_pageOf {nodes : List Node} (sought : Element → Bool) {position : Position}
    {around above : List Step} {found : Step}
    (hway : position.here :: position.above = around ++ found :: above)
    (haround : ∀ step ∈ around, sought step.element = false)
    (hfound : sought found.element = true) :
    (Node.pageOf nodes).closest? (fun position => sought position.here.element) position =
      some ⟨found, above⟩ := by
  show (Position.ofSteps (position.here :: position.above)).find? _ = _
  rw [hway, find?_ofSteps_append haround]
  exact List.find?_cons_of_pos hfound

end CodeReview.Html
