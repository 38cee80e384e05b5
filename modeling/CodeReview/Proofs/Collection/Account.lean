import CodeReview.Proofs.Collection.Grouping

/-!
# CodeReview.Proofs.Collection.Account

The account of threads, read off what became of them. An account is kept by one entry for each
thread; `Tally.ofFates` says what it comes to, and `Collected.tally_ofFates` that it comes to
that.

Every thread is entered once, so the threads seen are those left out for each reason and the
others (`Fate.length_eq_counts`).
-/

namespace CodeReview

namespace Fate

/-- Something is collected from the thread. -/
def isFruitful (fate : Fate) : Bool := !fate.comments.isEmpty

/-- A thread is left out for one of three reasons, or its comments are collected. -/
theorem length_eq_counts {fates : List Fate} (hkept : .kept [] ∉ fates) :
    fates.length =
      fates.count .resolved + fates.count .unlocated + fates.count .empty +
        fates.countP isFruitful := by
  induction fates with
  | nil => rfl
  | cons fate fates ih =>
    rw [List.mem_cons, not_or] at hkept
    obtain ⟨hfate, hrest⟩ := hkept
    have hlength := ih hrest
    cases fate with
    | resolved | unlocated | empty =>
      simp [isFruitful, comments]
      omega
    | kept made =>
      -- Here the premise is needed: nothing kept would be counted nowhere.
      have hfruitful : (kept made).isFruitful = true := by
        cases made with
        | nil => exact absurd rfl hfate
        | cons comment made => rfl
      rw [List.countP_cons_of_pos hfruitful]
      simp
      omega

/-- What is collected comes from the fruitful threads. -/
theorem flatMap_comments_filter (fates : List Fate) :
    (fates.filter isFruitful).flatMap comments = fates.flatMap comments := by
  induction fates with
  | nil => rfl
  | cons fate fates ih =>
    cases hfate : fate.isFruitful with
    | true => rw [List.filter_cons_of_pos hfate, List.flatMap_cons, List.flatMap_cons, ih]
    | false =>
      have hnone : fate.comments = [] := by simpa [isFruitful] using hfate
      rw [List.filter_cons_of_neg (by simp [hfate]), List.flatMap_cons, hnone, ih,
        List.nil_append]

end Fate

/-- The account of threads with these fates. -/
def Tally.ofFates (fates : List Fate) : Tally where
  seen := fates.length
  resolved := fates.count .resolved
  unlocated := fates.count .unlocated
  empty := fates.count .empty
  emitted := (fates.flatMap Fate.comments).length

theorem Tally.ofFates_append_singleton (fates : List Fate) (fate : Fate) :
    ofFates (fates ++ [fate]) = (ofFates fates).enter fate := by
  cases fate <;> simp [ofFates, enter, Fate.comments]

namespace Collected

/-- **The account that is kept.** -/
theorem tally_ofFates (fates : List Fate) : (ofFates fates).tally = .ofFates fates := by
  induction fates using List.reverseRecOn with
  | nil => rfl
  | append_singleton fates fate ih =>
    rw [ofFates_append_singleton, Tally.ofFates_append_singleton, ← ih]
    rfl

theorem length_comments_ofFates (fates : List Fate) :
    (fates.flatMap Fate.comments).length = (ofFates fates).tally.emitted := by
  rw [tally_ofFates]
  rfl

end Collected

end CodeReview
