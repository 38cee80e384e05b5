import CodeReview.Collection
import Mathlib.Data.List.Induction
import Mathlib.Data.List.Perm.Basic

/-!
# CodeReview.Proofs.Collection.Grouping

What a collection holds after any sequence of comments was pushed: one file for each path,
in the order in which the paths came up first, with exactly the comments on that path, in
the order in which they came.

The closed form `files_ofList` says all of this at once. It is proved by induction on the
sequence from its end, since a push adds one comment behind all others; the step is
`pushInto_map`, a push into a list of files of this form.
-/

namespace CodeReview

/-- The paths of comments, each where it comes up first. -/
def firstPaths (comments : List Comment) : List String := (comments.map (·.path)).eraseDups

/-- The comments on one path, in order. -/
def commentsOn (path : String) (comments : List Comment) : List Comment :=
  comments.filter (·.path = path)

/-! ### Paths -/

theorem mem_firstPaths {path : String} {comments : List Comment} :
    path ∈ firstPaths comments ↔ ∃ comment ∈ comments, comment.path = path := by
  simp [firstPaths]

theorem firstPaths_eq_nil_iff {comments : List Comment} :
    firstPaths comments = [] ↔ comments = [] := by
  rw [List.eq_nil_iff_forall_not_mem, List.eq_nil_iff_forall_not_mem]
  constructor
  · intro hnone comment hmem
    exact hnone comment.path (mem_firstPaths.mpr ⟨comment, hmem, rfl⟩)
  · intro hnone path hmem
    obtain ⟨comment, hcomment, -⟩ := mem_firstPaths.mp hmem
    exact hnone comment hcomment

theorem nodup_eraseDups (paths : List String) : paths.eraseDups.Nodup := by
  cases paths with
  | nil => simp
  | cons path paths =>
    rw [List.eraseDups_cons, List.nodup_cons]
    exact ⟨by simp, nodup_eraseDups _⟩
termination_by paths.length
decreasing_by
  exact Nat.lt_succ_of_le (List.length_filter_le _ _)

theorem nodup_firstPaths (comments : List Comment) : (firstPaths comments).Nodup :=
  nodup_eraseDups _

/-- One more comment adds its path at the end, unless it has come up. -/
theorem firstPaths_append_singleton (comments : List Comment) (comment : Comment) :
    firstPaths (comments ++ [comment]) =
      if comment.path ∈ firstPaths comments then firstPaths comments
      else firstPaths comments ++ [comment.path] := by
  unfold firstPaths
  rw [List.map_append, List.map_singleton, List.eraseDups_append]
  by_cases hmem : comment.path ∈ comments.map (·.path)
  · have hold : [comment.path].removeAll (comments.map (·.path)) = [] := by
      rw [List.removeAll, List.filter_cons_of_neg (by simpa using hmem), List.filter_nil]
    rw [if_pos (List.mem_eraseDups.mpr hmem), hold, List.eraseDups_nil, List.append_nil]
  · have hnew : [comment.path].removeAll (comments.map (·.path)) = [comment.path] := by
      rw [List.removeAll, List.filter_cons_of_pos (by simpa using hmem), List.filter_nil]
    rw [if_neg fun h => hmem (List.mem_eraseDups.mp h), hnew]
    rfl

/-! ### Comments on a path -/

theorem commentsOn_append_singleton (path : String) (comments : List Comment)
    (comment : Comment) :
    commentsOn path (comments ++ [comment]) =
      if comment.path = path then commentsOn path comments ++ [comment]
      else commentsOn path comments := by
  unfold commentsOn
  rw [List.filter_append]
  by_cases hpath : comment.path = path <;> simp [hpath]

theorem commentsOn_eq_nil {path : String} {comments : List Comment}
    (h : path ∉ firstPaths comments) : commentsOn path comments = [] := by
  rw [commentsOn, List.filter_eq_nil_iff]
  intro comment hmem hpath
  exact h (mem_firstPaths.mpr ⟨comment, hmem, by simpa using hpath⟩)

theorem commentsOn_ne_nil {path : String} {comments : List Comment}
    (h : path ∈ firstPaths comments) : commentsOn path comments ≠ [] := by
  obtain ⟨comment, hmem, hpath⟩ := mem_firstPaths.mp h
  exact List.ne_nil_of_mem (List.mem_filter.mpr ⟨hmem, decide_eq_true hpath⟩)

/-- The comments on different paths, put together, are the comments on any of them. -/
theorem flatMap_commentsOn_perm {paths : List String} (hnodup : paths.Nodup)
    (comments : List Comment) :
    (paths.flatMap fun path => commentsOn path comments).Perm
      (comments.filter (·.path ∈ paths)) := by
  induction paths with
  | nil => simp
  | cons path paths ih =>
    obtain ⟨hnew, hrest⟩ := List.nodup_cons.mp hnodup
    rw [List.flatMap_cons]
    refine ((ih hrest).append_left _).trans ?_
    -- The comments on all the paths fall into those on the first and those on the others.
    have hsplit := List.filter_append_perm (fun comment : Comment => comment.path = path)
      (comments.filter (·.path ∈ path :: paths))
    rw [List.filter_filter, List.filter_filter] at hsplit
    have hhere : (comments.filter fun comment =>
        decide (comment.path = path) && decide (comment.path ∈ path :: paths)) =
          commentsOn path comments := by
      refine List.filter_congr fun comment _ => ?_
      by_cases hpath : comment.path = path <;> simp [hpath]
    have hothers : (comments.filter fun comment =>
        !decide (comment.path = path) && decide (comment.path ∈ path :: paths)) =
          comments.filter (·.path ∈ paths) := by
      refine List.filter_congr fun comment _ => ?_
      by_cases hpath : comment.path = path <;> simp [hpath, hnew]
    rwa [hhere, hothers] at hsplit

/-- The comments on the paths of some comments, put together, are these comments. -/
theorem flatMap_commentsOn_firstPaths_perm (comments : List Comment) :
    ((firstPaths comments).flatMap fun path => commentsOn path comments).Perm comments := by
  have hall : comments.filter (·.path ∈ firstPaths comments) = comments := by
    rw [List.filter_eq_self]
    exact fun comment hmem => decide_eq_true (mem_firstPaths.mpr ⟨comment, hmem, rfl⟩)
  have hon := flatMap_commentsOn_perm (nodup_firstPaths comments) comments
  rwa [hall] at hon

/-! ### Pushing -/

/-- A push into files that are given path by path. -/
theorem pushInto_map (comment : Comment) {paths : List String} (hnodup : paths.Nodup)
    (on : String → List Comment) :
    pushInto comment (paths.map fun path => ⟨path, on path⟩) =
      if comment.path ∈ paths then
        paths.map fun path =>
          ⟨path, if comment.path = path then on path ++ [comment] else on path⟩
      else (paths.map fun path => ⟨path, on path⟩) ++ [⟨comment.path, [comment]⟩] := by
  induction paths with
  | nil => rfl
  | cons path paths ih =>
    obtain ⟨hnew, hrest⟩ := List.nodup_cons.mp hnodup
    rw [List.map_cons, pushInto]
    by_cases hpath : path = comment.path
    · -- The comment belongs to the first file, and to no other.
      subst hpath
      have hothers : (paths.map fun path => (⟨path, on path⟩ : FileComments)) =
          paths.map fun path =>
            ⟨path, if comment.path = path then on path ++ [comment] else on path⟩ := by
        refine List.map_congr_left fun path hmem => ?_
        have hother : comment.path ≠ path := fun h => hnew (by rw [h]; exact hmem)
        rw [if_neg hother]
      simp [hothers]
    · rw [if_neg hpath, ih hrest]
      by_cases hmem : comment.path ∈ paths
      · rw [if_pos hmem, if_pos (List.mem_cons_of_mem _ hmem), List.map_cons,
          if_neg (Ne.symm hpath)]
      · rw [if_neg hmem, if_neg (by simp [Ne.symm hpath, hmem])]
        rfl

namespace Collection

/-- **The files of a collection.** -/
theorem files_ofList (comments : List Comment) :
    (ofList comments).files =
      (firstPaths comments).map fun path => ⟨path, commentsOn path comments⟩ := by
  -- A collection grows at its end, so the list is taken apart from there.
  induction comments using List.reverseRecOn with
  | nil => rfl
  | append_singleton comments comment ih =>
    rw [ofList_append_singleton, files_push, ih, pushInto_map comment (nodup_firstPaths comments),
      firstPaths_append_singleton]
    by_cases hmem : comment.path ∈ firstPaths comments
    · rw [if_pos hmem, if_pos hmem]
      refine List.map_congr_left fun path _ => ?_
      rw [commentsOn_append_singleton]
    · rw [if_neg hmem, if_neg hmem, List.map_append, List.map_singleton,
        commentsOn_append_singleton, if_pos rfl, commentsOn_eq_nil hmem]
      congr 1
      refine List.map_congr_left fun path hpath => ?_
      have hother : comment.path ≠ path := fun h => hmem (by rw [h]; exact hpath)
      rw [commentsOn_append_singleton, if_neg hother]

end Collection

end CodeReview
