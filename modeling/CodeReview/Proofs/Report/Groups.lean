import CodeReview.Proofs.Report.Order

/-!
# CodeReview.Proofs.Report.Groups

The comments of a report on one path, and what becomes of them when the comments bear labels.
Sorting stably does not look at labels, and leaving out the elements of some labels before or
after it comes to the same.
-/

namespace CodeReview

namespace StablySorted

variable {α β κ : Type} [LE κ] [DecidableEq κ] {key : α → κ} {given sorted : List α}

/-- Elements that are left out leave the others sorted stably. -/
theorem filter (h : StablySorted key given sorted) (p : α → Bool) :
    StablySorted key (given.filter p) (sorted.filter p) where
  perm := h.perm.filter p
  ordered := h.ordered.filter p
  stable k := by
    rw [List.filter_comm, h.stable k, List.filter_comm]

/-- Elements that are seen through a function are sorted stably by what is seen. -/
theorem map (key : α → κ) (f : β → α) {given sorted : List β}
    (h : StablySorted (fun b => key (f b)) given sorted) :
    StablySorted key (given.map f) (sorted.map f) where
  perm := h.perm.map f
  ordered := List.pairwise_map.mpr h.ordered
  stable k := by
    rw [List.filter_map, List.filter_map]
    exact congrArg (List.map f) (h.stable k)

end StablySorted

/-! ### The comments on a path -/

/-- The comments of a report on a path. -/
def Report.on (report : Report) (path : String) : List Comment :=
  ((report.files.find? (·.path = path)).map (·.comments)).getD []

theorem Report.stablySorted_on (comments : List Comment) (path : String) :
    StablySorted Comment.startLine (commentsOn path comments)
      ((ofCollection (.ofList comments)).on path) := by
  unfold Report.on
  cases hfile : (ofCollection (.ofList comments)).files.find? (·.path = path) with
  | some file =>
    have hpath : file.path = path := by simpa using List.find?_some hfile
    rw [← hpath]
    exact stablySorted_of_mem_files (List.mem_of_find?_eq_some hfile)
  | none =>
    have hnone : commentsOn path comments = [] := by
      refine commentsOn_eq_nil fun hmem => ?_
      obtain ⟨file, hmemfile, hpath⟩ :=
        List.mem_map.mp (mem_map_path_files.mpr (mem_firstPaths.mp hmem))
      exact List.find?_eq_none.mp hfile file hmemfile (decide_eq_true hpath)
    rw [hnone]
    exact ⟨.nil, .nil, fun _ => rfl⟩

/-! ### Labelled comments -/

section Labels

variable {ι : Type}

/-- Labelled comments on a path, in the order of a report. -/
def labelledOn (path : String) (comments : List (ι × Comment)) : List (ι × Comment) :=
  (comments.filter (·.2.path = path)).mergeSort fun a b => a.2.startLine ≤ b.2.startLine

theorem stablySorted_labelledOn (path : String) (comments : List (ι × Comment)) :
    StablySorted (·.2.startLine) (comments.filter (·.2.path = path))
      (labelledOn path comments) :=
  stablySorted_mergeSort _ _

theorem map_snd_labelledOn (path : String) (comments : List (ι × Comment)) :
    (labelledOn path comments).map Prod.snd =
      (Report.ofCollection (.ofList (comments.map Prod.snd))).on path := by
  have hlabelled := (stablySorted_labelledOn path comments).map Comment.startLine Prod.snd
  have hon : (comments.filter (·.2.path = path)).map Prod.snd =
      commentsOn path (comments.map Prod.snd) := by
    rw [commentsOn, List.filter_map]
    rfl
  rw [hon] at hlabelled
  exact hlabelled.unique (Report.stablySorted_on _ path)

/-- Comments that have the same others besides some labels have them in the same order on each
path. -/
theorem filter_labelledOn_eq {comments others : List (ι × Comment)} {p : ι × Comment → Bool}
    (h : comments.filter p = others.filter p) (path : String) :
    (labelledOn path comments).filter p = (labelledOn path others).filter p := by
  -- Both sides sort one list stably: the others on the path.
  have hcomments := (stablySorted_labelledOn path comments).filter p
  have hothers := (stablySorted_labelledOn path others).filter p
  rw [List.filter_comm, h, List.filter_comm] at hcomments
  exact hcomments.unique hothers

end Labels

end CodeReview
