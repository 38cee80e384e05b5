import CodeReview.Proofs.Html.Mirror
import CodeReview.ReviewPage.Threads

/-!
# CodeReview.Proofs.ReviewPage.Mirror

What is collected from a page is told by the answers of the page, so pages that answer alike
are read alike.
-/

namespace CodeReview.ReviewPage

open Html

variable {ι κ : Type} {page : Page ι} {other : Page κ} {same : ι → κ → Prop} {a : ι} {b : κ}

theorem isResolved_eq (h : page.attributes a = other.attributes b) :
    isResolved page a = isResolved other b := by
  rw [isResolved, isResolved, Page.attribute?_eq h]

/-! ### What is inside a thread -/

section Within

variable (h : page.AgreesWithin other same)
include h

theorem textOf?_eq (hab : same a b) (name : String) :
    textOf? page name a = textOf? other name b :=
  optionMap_eq (h.firstOfClass? hab name) h.trimmedText

theorem changeOfCells_eq (hab : same a b) :
    Suggestion.changeOfCells page (page.inner a) =
      Suggestion.changeOfCells other (other.inner b) := by
  have htexts (name : String) :
      ((page.inner a).filter (page.hasClass · name)).map page.trimmedText =
        ((other.inner b).filter (other.hasClass · name)).map other.trimmedText :=
    map_eq (forall₂_filter (h.inner hab) fun hcd => Page.hasClass_eq (h.attributes hcd) name)
      h.trimmedText
  unfold Suggestion.changeOfCells
  dsimp only
  rw [htexts, htexts]

theorem change?_eq (hab : same a b) : change? page a = change? other b :=
  bind_eq (h.firstOfClass? hab _) (changeOfCells_eq h)

theorem lineOfRow?_eq (hab : same a b) : lineOfRow? page a = lineOfRow? other b := by
  rw [lineOfRow?, lineOfRow?, findSome?_eq (h.inner hab) fun hcd =>
    Page.attribute?_eq (h.attributes hcd) lineAttribute]

end Within

/-! ### What is around a thread -/

/-- The element before the row that a thread is in. -/
def rowBefore? (page : Page ι) (thread : ι) : Option ι :=
  (page.closest? (isThreadRow page) thread).bind page.previous?

theorem rowLine?_eq_bind (page : Page ι) (thread : ι) :
    rowLine? page thread = (rowBefore? page thread).bind (lineOfRow? page) := rfl

section Around

variable (h : page.AgreesAround other same)
include h

theorem path?_eq (hab : same a b) : path? page a = path? other b := by
  have hfile : Option.Rel same (page.closest? (page.hasClass · fileClass) a)
      (other.closest? (other.hasClass · fileClass) b) :=
    h.closest? hab fun hcd => Page.hasClass_eq (h.attributes hcd) fileClass
  rw [path?, path?, bind_eq hfile fun hcd => Page.attribute?_eq (h.attributes hcd) pathAttribute]

theorem isThreadRow_eq (hab : same a b) : isThreadRow page a = isThreadRow other b := by
  rw [isThreadRow, isThreadRow, h.name hab, Page.hasClass_eq (h.attributes hab)]

theorem rel_rowBefore? (hab : same a b) :
    Option.Rel same (rowBefore? page a) (rowBefore? other b) := by
  have hrow := h.closest? hab (isThreadRow_eq h)
  unfold rowBefore?
  generalize page.closest? (isThreadRow page) a = row at hrow
  generalize other.closest? (isThreadRow other) b = otherRow at hrow
  cases hrow with
  | some hcd => exact h.previous? hcd
  | none => exact .none

end Around

/-! ### Threads -/

theorem anchor?_eq (hchars : page.chars a = other.chars b)
    (hrow : phraseRange? (page.chars a) = none → rowLine? page a = rowLine? other b) :
    anchor? page a = anchor? other b := by
  rw [anchor?, anchor?, ← hchars]
  cases hphrase : phraseRange? (page.chars a) with
  | some range => rfl
  | none => rw [hrow hphrase]

/-- Threads that hold the same, are at the same path and speak of the same lines have the same
fate. -/
theorem fate_eq (h : page.AgreesWithin other same) (hab : same a b)
    (hpath : path? page a = path? other b)
    (hanchor : body page a ≠ "" → anchor? page a = anchor? other b) :
    fate page a = fate other b := by
  have hbody : body page a = body other b := by rw [body, body, textOf?_eq h hab]
  have hauthor : author page a = author other b := by rw [author, author, textOf?_eq h hab]
  unfold fate
  rw [isResolved_eq (h.attributes hab), ← hpath, ← hbody, ← hauthor, ← change?_eq h hab]
  by_cases hempty : body page a = ""
  · simp only [hempty, if_pos]
  · rw [hanchor hempty]

/-- **Pages that answer alike are read alike.** -/
theorem collect_of_mirrors (h : page.Mirrors other same) : collect page = collect other := by
  have hrow {a b} (hab : same a b) : rowLine? page a = rowLine? other b := by
    rw [rowLine?_eq_bind, rowLine?_eq_bind]
    exact bind_eq (rel_rowBefore? h.around hab) (lineOfRow?_eq h.within)
  have hfate {a b} (hab : same a b) : fate page a = fate other b :=
    fate_eq h.within hab (path?_eq h.around hab) fun _ =>
      anchor?_eq (h.chars hab) fun _ => hrow hab
  have hthreads : (threads page).map (fate page) = (threads other).map (fate other) :=
    map_eq (forall₂_filter h.elements fun hab => Page.hasClass_eq (h.attributes hab) threadClass)
      hfate
  rw [collect, collect, hthreads]

/-- They hold the same payload. -/
theorem payloadText?_of_mirrors (h : page.Mirrors other same) :
    payloadText? page = payloadText? other := by
  refine optionMap_eq (rel_find? h.elements fun hab => ?_) fun hab => congrArg _ (h.chars hab)
  rw [isPayloadScript, isPayloadScript, h.name hab, Page.attribute?_eq (h.attributes hab)]

end CodeReview.ReviewPage
