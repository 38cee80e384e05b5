import CodeReview.Html.Page
import Mathlib.Data.List.Forall2

/-!
# CodeReview.Proofs.Html.Mirror

Pages that answer alike. Two pages may store their elements in different ways; if there is a
correspondence between the elements under which all questions have corresponding answers, then
whatever is found on one of the pages is found on the other.
-/

namespace CodeReview.Html

/-! ### Corresponding lists -/

section Lists

variable {α β γ : Type} {same : α → β → Prop} {as : List α} {bs : List β}

/-- Searches in corresponding lists end at corresponding elements. -/
theorem rel_find? (h : List.Forall₂ same as bs) {p : α → Bool} {q : β → Bool}
    (hpq : ∀ {a b}, same a b → p a = q b) : Option.Rel same (as.find? p) (bs.find? q) := by
  induction h with
  | nil => exact .none
  | @cons a b as bs hab _ ih =>
    rw [List.find?_cons, List.find?_cons, hpq hab]
    cases q b with
    | true => exact .some hab
    | false => exact ih

theorem findSome?_eq (h : List.Forall₂ same as bs) {f : α → Option γ} {g : β → Option γ}
    (hfg : ∀ {a b}, same a b → f a = g b) : as.findSome? f = bs.findSome? g := by
  induction h with
  | nil => rfl
  | @cons a b as bs hab _ ih =>
    rw [List.findSome?_cons, List.findSome?_cons, hfg hab, ih]

theorem map_eq (h : List.Forall₂ same as bs) {f : α → γ} {g : β → γ}
    (hfg : ∀ {a b}, same a b → f a = g b) : as.map f = bs.map g := by
  have hmap : List.Forall₂ (· = ·) (as.map f) (bs.map g) :=
    List.rel_map (fun _ _ hab => hfg hab) h
  rwa [List.forall₂_eq_eq_eq] at hmap

theorem forall₂_filter (h : List.Forall₂ same as bs) {p : α → Bool} {q : β → Bool}
    (hpq : ∀ {a b}, same a b → p a = q b) : List.Forall₂ same (as.filter p) (bs.filter q) :=
  List.rel_filter (fun _ _ hab => Bool.eq_iff_iff.mp (hpq hab)) h

theorem forall₂_range' {same : Nat → Nat → Prop} {i j n : Nat}
    (h : ∀ k < n, same (i + k) (j + k)) :
    List.Forall₂ same (List.range' i n) (List.range' j n) := by
  induction n generalizing i j with
  | zero => exact .nil
  | succ n ih =>
    rw [List.range'_succ, List.range'_succ]
    refine .cons (h 0 (Nat.succ_pos n)) (ih fun k hk => ?_)
    rw [Nat.add_assoc, Nat.add_assoc, Nat.add_comm 1 k]
    exact h (k + 1) (Nat.succ_lt_succ hk)

end Lists

section Options

variable {α β γ : Type} {same : α → β → Prop} {a : Option α} {b : Option β}

theorem bind_eq (h : Option.Rel same a b) {f : α → Option γ} {g : β → Option γ}
    (hfg : ∀ {a b}, same a b → f a = g b) : a.bind f = b.bind g := by
  cases h with
  | some hab => exact hfg hab
  | none => rfl

theorem optionMap_eq (h : Option.Rel same a b) {f : α → γ} {g : β → γ}
    (hfg : ∀ {a b}, same a b → f a = g b) : a.map f = b.map g := by
  cases h with
  | some hab => exact congrArg some (hfg hab)
  | none => rfl

end Options

/-! ### Corresponding pages -/

variable {ι κ : Type}

/-- The pages answer alike about what elements that are the same hold. -/
structure Page.AgreesWithin (page : Page ι) (other : Page κ) (same : ι → κ → Prop) : Prop where
  attributes : ∀ {a b}, same a b → page.attributes a = other.attributes b
  chars : ∀ {a b}, same a b → page.chars a = other.chars b
  inner : ∀ {a b}, same a b → List.Forall₂ same (page.inner a) (other.inner b)

/-- The pages answer alike about what is around elements that are the same. -/
structure Page.AgreesAround (page : Page ι) (other : Page κ) (same : ι → κ → Prop) : Prop where
  name : ∀ {a b}, same a b → page.name a = other.name b
  attributes : ∀ {a b}, same a b → page.attributes a = other.attributes b
  above : ∀ {a b}, same a b → List.Forall₂ same (page.above a) (other.above b)
  previous? : ∀ {a b}, same a b → Option.Rel same (page.previous? a) (other.previous? b)

/-- The pages answer all questions alike about elements that are the same. -/
structure Page.Mirrors (page : Page ι) (other : Page κ) (same : ι → κ → Prop) : Prop where
  elements : List.Forall₂ same page.elements other.elements
  name : ∀ {a b}, same a b → page.name a = other.name b
  attributes : ∀ {a b}, same a b → page.attributes a = other.attributes b
  chars : ∀ {a b}, same a b → page.chars a = other.chars b
  inner : ∀ {a b}, same a b → List.Forall₂ same (page.inner a) (other.inner b)
  above : ∀ {a b}, same a b → List.Forall₂ same (page.above a) (other.above b)
  previous? : ∀ {a b}, same a b → Option.Rel same (page.previous? a) (other.previous? b)

variable {page : Page ι} {other : Page κ} {same : ι → κ → Prop} {a : ι} {b : κ}

/-! #### Single elements -/

theorem Page.attribute?_eq (h : page.attributes a = other.attributes b) (name : String) :
    page.attribute? a name = other.attribute? b name := by
  rw [Page.attribute?, Page.attribute?, h]

theorem Page.hasClass_eq (h : page.attributes a = other.attributes b) (name : String) :
    page.hasClass a name = other.hasClass b name := by
  rw [Page.hasClass, Page.hasClass, Page.classes, Page.classes, Page.attribute?_eq h]

/-! #### What elements hold -/

namespace Page.AgreesWithin

theorem trimmedText (h : page.AgreesWithin other same) (hab : same a b) :
    page.trimmedText a = other.trimmedText b := by
  rw [Page.trimmedText, Page.trimmedText, h.chars hab]

theorem firstOfClass? (h : page.AgreesWithin other same) (hab : same a b) (name : String) :
    Option.Rel same (page.firstOfClass? a name) (other.firstOfClass? b name) :=
  rel_find? (h.inner hab) fun hcd => Page.hasClass_eq (h.attributes hcd) name

end Page.AgreesWithin

/-! #### What is around elements -/

theorem Page.AgreesAround.closest? (h : page.AgreesAround other same) (hab : same a b)
    {p : ι → Bool} {q : κ → Bool} (hpq : ∀ {a b}, same a b → p a = q b) :
    Option.Rel same (page.closest? p a) (other.closest? q b) :=
  rel_find? (.cons hab (h.above hab)) hpq

namespace Page.Mirrors

theorem within (h : page.Mirrors other same) : page.AgreesWithin other same :=
  ⟨h.attributes, h.chars, h.inner⟩

theorem around (h : page.Mirrors other same) : page.AgreesAround other same :=
  ⟨h.name, h.attributes, h.above, h.previous?⟩

end Page.Mirrors

end CodeReview.Html
