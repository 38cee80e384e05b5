import CodeReview.Proofs.Html.Laying
import CodeReview.Proofs.Html.Refilling
import CodeReview.Proofs.ReviewPage.Mirror

/-!
# CodeReview.Proofs.ReviewPage.Seclusion

What resolved threads hold, and who looks at it. Nobody does on their behalf. But a thread that
is read is searched through whole, and so is the row before its own row; a resolved thread that
is in one of them is searched through with it. If it is in neither (`IsApart`), a page is read
alike whatever the resolved thread holds.
-/

namespace CodeReview.ReviewPage

open Html Arena

section Reading

variable {ι : Type} (page : Page ι)

/-- The thread is searched through: it is not resolved, and it is in a file with a path. -/
def isRead (thread : ι) : Bool := !isResolved page thread && (path? page thread).isSome

/-- The thread takes its line from the row before its own: it is read, it says something, and no
phrase in it tells the lines. -/
def goesByRow (thread : ι) : Bool :=
  isRead page thread && body page thread != "" && (phraseRange? (page.chars thread)).isNone

/-- Nothing that is searched through holds the element. -/
structure IsApart (element : ι) : Prop where
  inside : ∀ thread ∈ threads page, isRead page thread = true → element ∉ page.inner thread
  before : ∀ thread ∈ threads page, goesByRow page thread = true →
    ∀ row ∈ rowBefore? page thread, row ≠ element ∧ element ∉ page.inner row

end Reading

variable {arena other : Arena} {nodes others old new : List Node} {number : Nat}

/-- If no thread is inside the element, the pages have the same threads. -/
theorem forall₂_threads (hpage : arena.Holds nodes) (hother : other.Holds others)
    (hrefilled : Node.Refilled number old new 1 nodes others)
    (hold : ∀ element ∈ arena.page.inner number, arena.page.hasClass element threadClass = false)
    (hnew : ∀ element ∈ other.page.inner number, other.page.hasClass element threadClass = false) :
    List.Forall₂ (Twin arena other number old new) (threads arena.page) (threads other.page) := by
  have hclass {i j : Nat} (h : Twin arena other number old new i j) :
      arena.page.hasClass i threadClass = other.page.hasClass j threadClass :=
    Page.hasClass_eq h.attributes_eq threadClass
  obtain ⟨front, front', back, back', helements, helements', hfront, hback⟩ :=
    hpage.elements_split hother hrefilled
  have hinside : (arena.page.inner number).filter (arena.page.hasClass · threadClass) = [] :=
    List.filter_eq_nil_iff.mpr fun element helement => by simp [hold element helement]
  have hinside' : (other.page.inner number).filter (other.page.hasClass · threadClass) = [] :=
    List.filter_eq_nil_iff.mpr fun element helement => by simp [hnew element helement]
  rw [threads, threads, helements, helements', List.filter_append, List.filter_append,
    List.filter_append, List.filter_append, hinside, hinside', List.append_nil, List.append_nil]
  exact List.rel_append (forall₂_filter hfront hclass) (forall₂_filter hback hclass)

/-- A thread outside a resolved one that is apart has the same fate on both pages. -/
theorem fate_eq_of_isApart (hpage : arena.Holds nodes) (hother : other.Holds others)
    (hrefilled : Node.Refilled number old new 1 nodes others)
    (helement : arena.isElement number = true) (hresolved : isResolved arena.page number = true)
    (hapart : IsApart arena.page number) {a b : Nat} (ha : a ∈ threads arena.page)
    (hab : Twin arena other number old new a b) : fate arena.page a = fate other.page b := by
  have haround := agreesAround_of_refilled hpage hother hrefilled
  have hresolution : isResolved arena.page a = isResolved other.page b :=
    isResolved_eq hab.attributes_eq
  have hpath : path? arena.page a = path? other.page b := path?_eq haround hab
  cases hread : isRead arena.page a with
  | false =>
    -- Such a thread is left out before anything in it is looked at.
    unfold fate
    rw [← hresolution, ← hpath]
    rw [isRead, Bool.and_eq_false_iff, Bool.not_eq_false'] at hread
    rcases hread with hdone | hlost
    · rw [hdone]
      rfl
    · rw [Option.isSome_eq_false_iff, Option.isNone_iff_eq_none] at hlost
      rw [hlost]
  | true =>
    have hne : a ≠ number := by
      rintro rfl
      rw [isRead, hresolved] at hread
      exact Bool.false_ne_true hread
    have hshares : arena.Shares other a b := hab.shares helement hne (hapart.inside a ha hread)
    have hwithin := agreesWithin_shares arena other
    refine fate_eq hwithin hshares hpath fun hbody => ?_
    refine anchor?_eq (hwithin.chars hshares) fun hphrase => ?_
    have hrow : goesByRow arena.page a = true := by
      simp [goesByRow, hread, hbody, hphrase]
    have hbefore := hapart.before a ha hrow
    have hrel := rel_rowBefore? haround hab
    rw [rowLine?_eq_bind, rowLine?_eq_bind]
    generalize rowBefore? arena.page a = row at hbefore hrel
    generalize rowBefore? other.page b = twin at hrel
    cases hrel with
    | none => rfl
    | @some row twin hrow =>
      obtain ⟨hrowne, hrowout⟩ := hbefore row rfl
      exact lineOfRow?_eq hwithin (hrow.shares helement hrowne hrowout)

/-- **What a resolved thread holds says nothing.** If nothing that is searched through holds the
thread, a page is read alike whatever the thread holds, other threads excepted. -/
theorem collect_eq_of_refilled (hpage : arena.Holds nodes) (hother : other.Holds others)
    (hrefilled : Node.Refilled number old new 1 nodes others)
    (hthread : number ∈ threads arena.page) (hresolved : isResolved arena.page number = true)
    (hold : ∀ element ∈ arena.page.inner number, arena.page.hasClass element threadClass = false)
    (hnew : ∀ element ∈ other.page.inner number, other.page.hasClass element threadClass = false)
    (hapart : IsApart arena.page number) : collect arena.page = collect other.page := by
  have helement : arena.isElement number = true := by
    have hmem : number ∈ arena.page.elements := (List.mem_filter.mp hthread).1
    rw [hpage.elements_eq] at hmem
    exact (List.mem_filter.mp hmem).2
  have hthreads := forall₂_threads hpage hother hrefilled hold hnew
  have hfates : (threads arena.page).map (fate arena.page) =
      (threads other.page).map (fate other.page) :=
    map_eq (List.forall₂_and_left _ _ |>.mpr ⟨fun _ h => h, hthreads⟩) fun h =>
      fate_eq_of_isApart hpage hother hrefilled helement hresolved hapart h.1 h.2
  rw [collect, collect, hfates]

/-! ### Rows between threads -/

/-- A row with the number of its line. -/
def numberRow (line : String) : Node :=
  .element "tr" [] [.element "td" [("data-line-number", line)] []]

/-- A row with a thread. -/
def threadRow (attributes : Attributes) (children : List Node) : Node :=
  .element "tr" [("class", "inline-comments")]
    [.element "td" []
      [.element "div" (("class", "review-thread-component") :: attributes) children]]

/-- A file with a resolved thread at line 12 and an open one, and rows between them. -/
def twoThreads (between held : List Node) : List Node :=
  [.element "html" []
    [.element "head" [] [],
      .element "body" []
        [.element "div" [("class", "file"), ("data-tagsearch-path", "b.rs")]
          [.element "table" []
            [.element "tbody" []
              ([numberRow "12", threadRow [("data-resolved", "true")] held] ++ between ++
                [threadRow [] [.element "div" [("class", "comment-body")] [.text "hi"]]])]]]]]

theorem refilled_twoThreads (between old new : List Node) :
    Node.Refilled 11 old new 1 (twoThreads between old) (twoThreads between new) :=
  .inside rfl (.behind (.inside rfl (.inside rfl (.inside rfl (.inside rfl (.behind
    (.inside rfl (.inside rfl .here))))))))

/-- A row between the threads keeps them apart. -/
theorem collect_eq_of_refilled_rowBetween :
    IsApart (ofNodes (twoThreads [numberRow "14"] [numberRow "99"])).page 11 ∧
      collect (ofNodes (twoThreads [numberRow "14"] [numberRow "99"])).page =
        collect (ofNodes (twoThreads [numberRow "14"] [])).page := by
  have hapart : IsApart (ofNodes (twoThreads [numberRow "14"] [numberRow "99"])).page 11 :=
    ⟨by decide +kernel, by decide +kernel⟩
  refine ⟨hapart, collect_eq_of_refilled (holds_ofNodes _) (holds_ofNodes _)
    (refilled_twoThreads [numberRow "14"] [numberRow "99"] []) ?_ ?_ ?_ ?_ hapart⟩
  all_goals decide +kernel

/-- Without a row between them, a number in the resolved thread becomes the line of the open
one, which is left out if there is none. -/
theorem collect_ne_of_refilled_adjacent :
    Node.Refilled 11 [numberRow "99"] [] 1 (twoThreads [] [numberRow "99"]) (twoThreads [] []) ∧
      (∀ held ∈ [[numberRow "99"], []],
        11 ∈ threads (ofNodes (twoThreads [] held)).page ∧
          isResolved (ofNodes (twoThreads [] held)).page 11 = true ∧
          ∀ element ∈ (ofNodes (twoThreads [] held)).page.inner 11,
            (ofNodes (twoThreads [] held)).page.hasClass element threadClass = false) ∧
      (collect (ofNodes (twoThreads [] [numberRow "99"])).page).comments.comments.map
          (·.anchor) = [.line 99] ∧
      (collect (ofNodes (twoThreads [] [])).page).comments = ∅ := by
  refine ⟨refilled_twoThreads [] [numberRow "99"] [], ?_, ?_, ?_⟩
  all_goals decide +kernel

end CodeReview.ReviewPage
