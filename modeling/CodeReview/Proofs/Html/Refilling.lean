import CodeReview.Proofs.Html.Storage

/-!
# CodeReview.Proofs.Html.Refilling

Two pages that differ in what one element holds. Both hold the same trees, except that the
element with a certain number holds other nodes (`Node.Refilled`). The nodes outside keep their
order, and their numbers up to a shift (`Node.Moves`); they have the same kind, and links to the
same nodes (`Arena.Twin`).

So the pages answer alike about what is around a node outside (`Arena.agreesAround_of_refilled`),
and about what it holds if that is not the element (`Arena.agreesWithin_shares`).
-/

namespace CodeReview.Html

/-! ### Refilled trees -/

namespace Node

/-- The trees differ in what the element with a number holds: `old` in the first ones and `new`
in the others. The nodes are numbered from `id` on. -/
inductive Refilled (number : Nat) (old new : List Node) : Nat → List Node → List Node → Prop
  | here {name : String} {attributes : Attributes} {nodes : List Node} :
      Refilled number old new number (.element name attributes old :: nodes)
        (.element name attributes new :: nodes)
  | inside {id : Nat} {node other : Node} {nodes : List Node} :
      node.kind = other.kind → Refilled number old new (id + 1) node.children other.children →
      Refilled number old new id (node :: nodes) (other :: nodes)
  | behind {id : Nat} {node : Node} {nodes others : List Node} :
      Refilled number old new (id + node.count) nodes others →
      Refilled number old new id (node :: nodes) (node :: others)

/-- The two numbers are those of one node outside the element. -/
def Moves (number : Nat) (old new : List Node) (i j : Nat) : Prop :=
  i ≤ number ∧ j = i ∨ number + countOf old < i ∧ j + countOf old = i + countOf new

variable {number : Nat} {old new : List Node}

theorem Moves.lt {i j link twin : Nat} (h : Moves number old new i j)
    (hlink : Moves number old new link twin) (hless : link < i) : twin < j := by
  unfold Moves at h hlink
  omega

theorem eq_of_kind_eq {node other : Node} (hkind : node.kind = other.kind)
    (hchildren : node.children = other.children) : node = other := by
  cases node <;> cases other <;> simp_all [kind, children, String.toList_inj]

/-- The element, with what it holds, is among the nodes. -/
theorem Refilled.bounds {id : Nat} {nodes others : List Node}
    (h : Refilled number old new id nodes others) :
    id ≤ number ∧ number + countOf old < id + countOf nodes ∧
      countOf others + countOf old = countOf nodes + countOf new := by
  induction h with
  | here =>
    simp only [countOf_cons, count]
    omega
  | @inside id node other nodes _ _ ih =>
    rw [countOf_cons, countOf_cons, count_eq, count_eq]
    omega
  | @behind id node nodes others _ ih =>
    rw [countOf_cons, countOf_cons]
    omega

theorem Refilled.symm {id : Nat} {nodes others : List Node}
    (h : Refilled number old new id nodes others) : Refilled number new old id others nodes := by
  induction h with
  | here => exact .here
  | inside hkind _ ih => exact .inside hkind.symm ih
  | behind _ ih => exact .behind ih

end Node

namespace Arena

open Node (Moves)

variable {arena other : Arena} {number : Nat} {old new : List Node}

/-! ### Nodes of both pages -/

/-- A node outside the element, with its numbers in the two pages. It holds the same in both,
unless it holds the element. -/
structure Twin (arena other : Arena) (number : Nat) (old new : List Node) (i j : Nat) : Prop where
  moves : Moves number old new i j
  stores : ∃ node twin, arena.StoresAt i node ∧ other.StoresAt j twin ∧ node.kind = twin.kind ∧
    (number < i ∨ i + node.count ≤ number → node.children = twin.children)
  parent : ∃ link twin, arena.parent? i = some link ∧ other.parent? j = some twin ∧
    Moves number old new link twin ∧ link < i
  previous : Option.Rel (Moves number old new) (arena.previous? i) (other.previous? j)
  previous_lt : ∀ {link}, arena.previous? i = some link → 0 < link ∧ link < i

/-- The first of nodes that are stored in both pages. -/
theorem Stores.twin_head {i j parent parent' : Nat} {previous previous' : Option Nat}
    {node node' : Node} {nodes nodes' : List Node}
    (h : arena.Stores parent previous i (node :: nodes))
    (h' : other.Stores parent' previous' j (node' :: nodes'))
    (hkind : node.kind = node'.kind)
    (hchildren : number < i ∨ i + node.count ≤ number → node.children = node'.children)
    (hmoves : Moves number old new i j) (hparent : Moves number old new parent parent')
    (hless : parent < i) (hprevious : Option.Rel (Moves number old new) previous previous')
    (hback : ∀ {link}, previous = some link → 0 < link ∧ link < i)
    (hfits : i + node.count ≤ arena.size) (hfits' : j + node'.count ≤ other.size) :
    Twin arena other number old new i j := by
  cases h with
  | cons hk hp hb _ hf hc _ =>
    cases h' with
    | cons hk' hp' hb' _ hf' hc' _ =>
      refine ⟨hmoves, ⟨node, node', ⟨hk, hf, hc, hfits⟩, ⟨hk', hf', hc', hfits'⟩, hkind,
        hchildren⟩, ⟨parent, parent', hp, hp', hparent, hless⟩, ?_, ?_⟩
      · rw [hb, hb']
        exact hprevious
      · intro link hlink
        exact hback (hb ▸ hlink)

/-- Nodes that are the same in both pages, and all before the element or all behind it. -/
theorem Stores.twin_of_same {i j parent parent' : Nat} {previous previous' : Option Nat}
    {nodes : List Node} (h : arena.Stores parent previous i nodes)
    (h' : other.Stores parent' previous' j nodes)
    (hside : i + Node.countOf nodes ≤ number ∧ j = i ∨
      number + Node.countOf old < i ∧ j + Node.countOf old = i + Node.countOf new)
    (hparent : Moves number old new parent parent') (hless : parent < i)
    (hprevious : Option.Rel (Moves number old new) previous previous')
    (hback : ∀ {link}, previous = some link → 0 < link ∧ link < i)
    (hfits : i + Node.countOf nodes ≤ arena.size)
    (hfits' : j + Node.countOf nodes ≤ other.size) {x y : Nat} (hxy : Moves number old new x y)
    (hfirst : i ≤ x) (hlast : x < i + Node.countOf nodes) :
    Twin arena other number old new x y := by
  induction h generalizing j parent' previous' with
  | nil => exact absurd hlast (Nat.not_lt.mpr hfirst)
  | @cons parent i previous node nodes hkind hlink hprev hnext hchild hchildren hnodes ihchildren
      ihnodes =>
    have hstores : arena.Stores parent previous i (node :: nodes) :=
      .cons hkind hlink hprev hnext hchild hchildren hnodes
    have hcount := node.count_eq
    rw [Node.countOf_cons] at hside hfits hfits' hlast
    have hij : Moves number old new i j := by
      unfold Moves
      omega
    cases h' with
    | cons hkind' hlink' hprev' hnext' hchild' hchildren' hnodes' =>
      rcases Nat.eq_or_lt_of_le hfirst with rfl | hfirst
      · -- The first node itself.
        obtain rfl : y = j := by
          unfold Moves at hxy hij
          omega
        exact hstores.twin_head (.cons hkind' hlink' hprev' hnext' hchild' hchildren' hnodes') rfl
          (fun _ => rfl) hij hparent hless hprevious hback (by omega) (by omega)
      · rcases Nat.lt_or_ge x (i + node.count) with hin | hbehind
        · exact ihchildren hchildren' (by omega) hij (Nat.lt_succ_self i) .none
            (fun h => nomatch h) (by omega) (by omega) hfirst (by omega)
        · exact ihnodes hnodes' (by omega) hparent (by omega) (.some hij)
            (fun h => by cases h; omega) (by omega) (by omega) hbehind (by omega)

/-- All nodes outside the element are nodes of both pages. -/
theorem Stores.twin_of_refilled {id parent : Nat} {previous : Option Nat}
    {nodes others : List Node} (h : Node.Refilled number old new id nodes others)
    (hstores : arena.Stores parent previous id nodes)
    (hothers : other.Stores parent previous id others) (hless : parent < id)
    (hback : ∀ {link}, previous = some link → 0 < link ∧ link < id)
    (hfits : id + Node.countOf nodes ≤ arena.size)
    (hfits' : id + Node.countOf others ≤ other.size) {x y : Nat} (hxy : Moves number old new x y)
    (hfirst : id ≤ x) (hlast : x < id + Node.countOf nodes) :
    Twin arena other number old new x y := by
  -- Everything up to the element has the same number in both pages.
  have hself {link : Nat} (hlink : link ≤ number) : Moves number old new link link :=
    .inl ⟨hlink, rfl⟩
  have hprevious : id ≤ number → Option.Rel (Moves number old new) previous previous := by
    intro hid
    cases hlink : previous with
    | none => exact .none
    | some link => exact .some (hself (Nat.le_of_lt (Nat.lt_of_lt_of_le (hback hlink).2 hid)))
  induction h generalizing parent previous with
  | @here name attributes nodes =>
    have hnode : (Node.element name attributes old).count = Node.countOf old + 1 := rfl
    have htwin : (Node.element name attributes new).count = Node.countOf new + 1 := rfl
    rw [Node.countOf_cons] at hfits hfits' hlast
    rcases Nat.eq_or_lt_of_le hfirst with rfl | hfirst
    · obtain rfl : y = number := by
        unfold Moves at hxy
        omega
      exact hstores.twin_head hothers rfl (by omega) hxy (hself (by omega)) hless
        (hprevious (Nat.le_refl _)) hback (by omega) (by omega)
    · cases hstores with
      | cons _ _ _ _ _ _ hnodes =>
        cases hothers with
        | cons _ _ _ _ _ _ hnodes' =>
          -- What the element holds is in one of the pages only.
          have hbehind : number + Node.countOf old < x := by
            unfold Moves at hxy
            omega
          exact hnodes.twin_of_same hnodes' (by omega) (hself (by omega)) (by omega)
            (.some (hself (Nat.le_refl _))) (fun h => by cases h; omega) (by omega) (by omega) hxy
            (by omega) (by omega)
  | @inside id node twin nodes hkind hrefilled ih =>
    obtain ⟨hle, hin, hcount⟩ := hrefilled.bounds
    have hnode := node.count_eq
    have htwin := twin.count_eq
    rw [Node.countOf_cons] at hfits hfits' hlast
    rcases Nat.eq_or_lt_of_le hfirst with rfl | hfirst
    · obtain rfl : y = id := by
        unfold Moves at hxy
        omega
      exact hstores.twin_head hothers hkind (by omega) hxy (hself (by omega)) hless
        (hprevious (by omega)) hback (by omega) (by omega)
    · cases hstores with
      | cons _ _ _ _ _ hchildren hnodes =>
        cases hothers with
        | cons _ _ _ _ _ hchildren' hnodes' =>
          rcases Nat.lt_or_ge x (id + node.count) with hin | hbehind
          · exact ih hchildren hchildren' (Nat.lt_succ_self id) (fun h => nomatch h) (by omega)
              (by omega) hfirst (by omega) (fun _ => .none)
          · exact hnodes.twin_of_same hnodes' (by omega) (hself (by omega)) (by omega)
              (.some (hself (by omega))) (fun h => by cases h; omega) (by omega) (by omega) hxy
              hbehind (by omega)
  | @behind id node nodes others hrefilled ih =>
    obtain ⟨hle, hin, hcount⟩ := hrefilled.bounds
    have hnode := node.count_eq
    rw [Node.countOf_cons] at hfits hfits' hlast
    rcases Nat.eq_or_lt_of_le hfirst with rfl | hfirst
    · obtain rfl : y = id := by
        unfold Moves at hxy
        omega
      exact hstores.twin_head hothers rfl (fun _ => rfl) hxy (hself (by omega)) hless
        (hprevious (by omega)) hback (by omega) (by omega)
    · cases hstores with
      | cons _ _ _ _ _ hchildren hnodes =>
        cases hothers with
        | cons _ _ _ _ _ hchildren' hnodes' =>
          rcases Nat.lt_or_ge x (id + node.count) with hin | hbehind
          · exact hchildren.twin_of_same hchildren' (by omega) (hself (by omega))
              (Nat.lt_succ_self id) .none (fun h => nomatch h) (by omega) (by omega) hxy hfirst
              (by omega)
          · exact ih hnodes hnodes' (by omega) (fun h => by cases h; omega) (by omega) (by omega)
              hbehind (by omega) (fun _ => .some (hself (by omega)))

/-- The element is where its number says, with what it holds. -/
theorem Stores.storesAt_of_refilled {id parent : Nat} {previous : Option Nat}
    {nodes others : List Node} (hstores : arena.Stores parent previous id nodes)
    (h : Node.Refilled number old new id nodes others)
    (hfits : id + Node.countOf nodes ≤ arena.size) :
    ∃ name attributes, arena.StoresAt number (.element name attributes old) := by
  induction h generalizing parent previous with
  | @here name attributes nodes =>
    rw [Node.countOf_cons] at hfits
    cases hstores with
    | cons hkind _ _ _ hfirst hchildren _ =>
      exact ⟨name, attributes, hkind, hfirst, hchildren, by omega⟩
  | @inside id node _ _ _ _ ih =>
    rw [Node.countOf_cons, Node.count_eq] at hfits
    cases hstores with
    | cons _ _ _ _ _ hchildren _ => exact ih hchildren (by omega)
  | @behind id node _ _ _ ih =>
    rw [Node.countOf_cons] at hfits
    cases hstores with
    | cons _ _ _ _ _ _ hnodes => exact ih hnodes (by omega)

/-! ### Nodes that are stored alike -/

/-- The two numbers are those of one node, whatever is around it. -/
def Shares (arena other : Arena) (i j : Nat) : Prop :=
  ∃ node, arena.StoresAt i node ∧ other.StoresAt j node

theorem Shares.isElement_eq {i j : Nat} (h : arena.Shares other i j) :
    arena.isElement i = other.isElement j := by
  obtain ⟨node, hi, hj⟩ := h
  rw [isElement_of_kind? hi.kind, isElement_of_kind? hj.kind]

theorem Stores.forall₂_shares {i j parent parent' : Nat} {previous previous' : Option Nat}
    {nodes : List Node} (h : arena.Stores parent previous i nodes)
    (h' : other.Stores parent' previous' j nodes) (hfits : i + Node.countOf nodes ≤ arena.size)
    (hfits' : j + Node.countOf nodes ≤ other.size) :
    List.Forall₂ (arena.Shares other) (List.range' i (Node.countOf nodes))
      (List.range' j (Node.countOf nodes)) := by
  induction h generalizing j parent' previous' with
  | nil => exact .nil
  | @cons parent i previous node nodes hkind _ _ _ hfirst hchildren hnodes ihchildren ihnodes =>
    have hcount := node.count_eq
    rw [Node.countOf_cons] at hfits hfits'
    rw [Node.range'_countOf_cons, Node.range'_countOf_cons]
    cases h' with
    | cons hkind' _ _ _ hfirst' hchildren' hnodes' =>
      have hnode : arena.Shares other i j :=
        ⟨node, ⟨hkind, hfirst, hchildren, by omega⟩, hkind', hfirst', hchildren', by omega⟩
      exact .cons hnode (List.rel_append (ihchildren hchildren' (by omega) (by omega))
        (ihnodes hnodes' (by omega) (by omega)))

/-- Pages answer alike about what a node holds that is stored in both. -/
theorem agreesWithin_shares (arena other : Arena) :
    arena.page.AgreesWithin other.page (arena.Shares other) where
  attributes := by
    rintro i j ⟨node, hi, hj⟩
    exact (attributes_of_kind? hi.kind).trans (attributes_of_kind? hj.kind).symm
  chars := by
    rintro i j ⟨node, hi, hj⟩
    exact hi.flatMap_letters.trans hj.flatMap_letters.symm
  inner := by
    rintro i j ⟨node, hi, hj⟩
    have hcount := node.count_eq
    have hfits := hi.fits
    have hfits' := hj.fits
    rw [hi.inner_eq, hj.inner_eq]
    exact forall₂_filter (hi.children.forall₂_shares hj.children (by omega) (by omega))
      fun h => h.isElement_eq

/-! ### What is around a node -/

namespace Twin

variable {i j : Nat}

theorem isElement_eq (h : Twin arena other number old new i j) :
    arena.isElement i = other.isElement j := by
  obtain ⟨node, twin, hi, hj, hkind, -⟩ := h.stores
  rw [isElement_of_kind? hi.kind, isElement_of_kind? hj.kind, hkind]

theorem name_eq (h : Twin arena other number old new i j) : arena.name i = other.name j := by
  obtain ⟨node, twin, hi, hj, hkind, -⟩ := h.stores
  rw [name_of_kind? hi.kind, name_of_kind? hj.kind, hkind]

theorem attributes_eq (h : Twin arena other number old new i j) :
    arena.attributes i = other.attributes j := by
  obtain ⟨node, twin, hi, hj, hkind, -⟩ := h.stores
  rw [attributes_of_kind? hi.kind, attributes_of_kind? hj.kind, hkind]

/-- A node outside the element that does not hold it is the same in both pages. -/
theorem shares (h : Twin arena other number old new i j) (helement : arena.isElement number = true)
    (hne : i ≠ number) (hnot : number ∉ arena.page.inner i) : arena.Shares other i j := by
  obtain ⟨node, twin, hi, hj, hkind, hchildren⟩ := h.stores
  have hcount := node.count_eq
  have hout : number < i ∨ i + node.count ≤ number := by
    rcases Nat.lt_or_gt_of_ne hne with hlt | hgt
    · refine .inr (Nat.le_of_not_lt fun hin => hnot ?_)
      rw [hi.inner_eq, List.mem_filter, List.mem_range'_1]
      exact ⟨⟨hlt, by omega⟩, helement⟩
    · exact .inl hgt
  exact ⟨node, hi, Node.eq_of_kind_eq hkind (hchildren hout) ▸ hj⟩

end Twin

/-! ### Pages -/

section Pages

variable {nodes others : List Node} (hpage : arena.Holds nodes) (hother : other.Holds others)
  (hrefilled : Node.Refilled number old new 1 nodes others)
include hpage hother hrefilled

theorem Holds.twin {i j : Nat} (hmoves : Moves number old new i j) (hpos : 0 < i)
    (hlast : i < arena.size) : Twin arena other number old new i j := by
  have hsize := hpage.size
  have hsize' := hother.size
  exact hpage.stores.twin_of_refilled hrefilled hother.stores (by decide) (fun h => nomatch h)
    (by omega) (by omega) hmoves hpos (by omega)

/-- The elements above a node outside the element are the same in both pages. -/
theorem Holds.forall₂_above {i j : Nat} (h : Twin arena other number old new i j) {steps steps' : Nat}
    (hsteps : i ≤ steps) (hsteps' : j ≤ steps') :
    List.Forall₂ (Twin arena other number old new) (arena.above steps i)
      (other.above steps' j) := by
  induction steps generalizing i j steps' with
  | zero =>
    obtain ⟨link, _, _, _, _, hless⟩ := h.parent
    omega
  | succ steps ih =>
    obtain ⟨link, twin, hlink, htwin, hmoves, hless⟩ := h.parent
    have hbelow : twin < j := h.moves.lt hmoves hless
    obtain ⟨steps', rfl⟩ : ∃ more, steps' = more + 1 := ⟨steps' - 1, by omega⟩
    rw [above, above, hlink, htwin]
    dsimp only
    rcases Nat.eq_zero_or_pos link with rfl | hpos
    · obtain rfl : twin = 0 := by
        unfold Node.Moves at hmoves
        omega
      have hroot : arena.isElement 0 = false := hpage.root
      have hroot' : other.isElement 0 = false := hother.root
      rw [hroot, hroot']
      exact .nil
    · obtain ⟨node, _, hstores, _⟩ := h.stores
      have hfits := hstores.fits
      have hup := hpage.twin hother hrefilled hmoves hpos (by omega)
      rw [hup.isElement_eq]
      cases other.isElement twin with
      | true => exact .cons hup (ih hup (by omega) (by omega))
      | false => exact .nil

/-- The last element before a node outside the element is the same in both pages. -/
theorem Holds.rel_elementBefore? {i j : Nat} (h : Twin arena other number old new i j)
    {steps steps' : Nat} (hsteps : i ≤ steps) (hsteps' : j ≤ steps') :
    Option.Rel (Twin arena other number old new) (arena.elementBefore? steps i)
      (other.elementBefore? steps' j) := by
  induction steps generalizing i j steps' with
  | zero =>
    obtain ⟨link, _, _, _, _, hless⟩ := h.parent
    omega
  | succ steps ih =>
    obtain ⟨_, twinParent, _, _, hparent, hless⟩ := h.parent
    have hbelow : twinParent < j := h.moves.lt hparent hless
    obtain ⟨steps', rfl⟩ : ∃ more, steps' = more + 1 := ⟨steps' - 1, by omega⟩
    obtain ⟨_, _, hstores, _⟩ := h.stores
    have hfits := hstores.fits
    have hprevious := h.previous
    have hback {link : Nat} : arena.previous? i = some link → 0 < link ∧ link < i := h.previous_lt
    rw [elementBefore?, elementBefore?]
    generalize arena.previous? i = link at hprevious hback
    generalize other.previous? j = twin at hprevious
    cases hprevious with
    | none => exact .none
    | @some link twin hmoves =>
      obtain ⟨hpos, hlt⟩ := hback rfl
      have hbefore : twin < j := h.moves.lt hmoves hlt
      have hprev := hpage.twin hother hrefilled hmoves hpos (by omega)
      dsimp only
      rw [hprev.isElement_eq]
      cases other.isElement twin with
      | true => exact .some hprev
      | false => exact ih hprev (by omega) (by omega)

/-- **The pages answer alike about what is around a node outside the element.** -/
theorem agreesAround_of_refilled :
    arena.page.AgreesAround other.page (Twin arena other number old new) where
  name h := h.name_eq
  attributes h := h.attributes_eq
  above h := by
    obtain ⟨_, _, hi, hj, _⟩ := h.stores
    have hfits := hi.fits
    have hfits' := hj.fits
    exact hpage.forall₂_above hother hrefilled h (by omega) (by omega)
  previous? h := by
    obtain ⟨_, _, hi, hj, _⟩ := h.stores
    have hfits := hi.fits
    have hfits' := hj.fits
    exact hpage.rel_elementBefore? hother hrefilled h (by omega) (by omega)

/-- The elements of the pages correspond, but for those that the element holds. -/
theorem Holds.elements_split :
    ∃ front front' back back',
      arena.page.elements = front ++ arena.page.inner number ++ back ∧
      other.page.elements = front' ++ other.page.inner number ++ back' ∧
      List.Forall₂ (Twin arena other number old new) front front' ∧
      List.Forall₂ (Twin arena other number old new) back back' := by
  obtain ⟨hpos, hin, hcount⟩ := hrefilled.bounds
  have hsize := hpage.size
  obtain ⟨rest, hrest⟩ : ∃ rest, Node.countOf nodes = number + (Node.countOf old + rest) :=
    ⟨Node.countOf nodes - number - Node.countOf old, by omega⟩
  have hrest' : Node.countOf others = number + (Node.countOf new + rest) := by omega
  have htwin {i j : Nat} (hmoves : Moves number old new i j) (hfirst : 0 < i)
      (hlast : i ≤ number + Node.countOf old + rest) : Twin arena other number old new i j :=
    hpage.twin hother hrefilled hmoves hfirst (by omega)
  have hfront : List.Forall₂ (Twin arena other number old new) (List.range' 1 number)
      (List.range' 1 number) :=
    forall₂_range' fun k hk => htwin (.inl ⟨by omega, rfl⟩) (by omega) (by omega)
  have hback : List.Forall₂ (Twin arena other number old new)
      (List.range' (1 + number + Node.countOf old) rest)
      (List.range' (1 + number + Node.countOf new) rest) :=
    forall₂_range' fun k hk => htwin (.inr ⟨by omega, by omega⟩) (by omega) (by omega)
  obtain ⟨_, _, helement⟩ := hpage.stores.storesAt_of_refilled hrefilled (by omega)
  obtain ⟨_, _, helement'⟩ :=
    hother.stores.storesAt_of_refilled hrefilled.symm (by rw [hother.size]; omega)
  refine ⟨_, _, _, _, ?_, ?_, forall₂_filter hfront fun h => h.isElement_eq,
    forall₂_filter hback fun h => h.isElement_eq⟩
  · rw [hpage.elements_eq, helement.inner_eq, hrest, ← List.range'_append_1,
      ← List.range'_append_1, List.filter_append, List.filter_append, List.append_assoc,
      Nat.add_comm 1 number]
    rfl
  · rw [hother.elements_eq, helement'.inner_eq, hrest', ← List.range'_append_1,
      ← List.range'_append_1, List.filter_append, List.filter_append, List.append_assoc,
      Nat.add_comm 1 number]
    rfl

end Pages

end Arena

end CodeReview.Html
