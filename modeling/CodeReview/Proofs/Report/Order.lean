import CodeReview.Proofs.Collection.Grouping
import CodeReview.Proofs.Text.ByteOrder
import CodeReview.Report

/-!
# CodeReview.Proofs.Report.Order

The order of a report. `StablySorted` says what sorting a list stably by a key means,
without saying how it is done, and fixes the sorted list (`StablySorted.unique`).
A report on a sequence of comments has one file for each path, in strictly ascending
order of their bytes, and the comments of each file are the comments on its path, stably
sorted by the line they start on (`ofCollection_ordered`).
-/

namespace CodeReview

open Text (LineNumber utf8Bytes lt_iff_utf8Bytes_lt)

/-! ### Stable sorting -/

/-- The second list is the first one stably sorted by a key: rearranged, the keys in order,
and for each key the elements of that key as before. -/
structure StablySorted {α κ : Type} [LE κ] [DecidableEq κ] (key : α → κ)
    (given sorted : List α) : Prop where
  perm : sorted.Perm given
  ordered : sorted.Pairwise fun a b => key a ≤ key b
  stable : ∀ k, (sorted.filter fun a => key a = k) = given.filter fun a => key a = k

section Keys

variable {α κ : Type} [LE κ] [DecidableLE κ] [Std.IsLinearOrder κ] (key : α → κ)

theorem le_key_trans (a b c : α) (hab : decide (key a ≤ key b) = true)
    (hbc : decide (key b ≤ key c) = true) : decide (key a ≤ key c) = true := by
  rw [decide_eq_true_iff] at hab hbc ⊢
  exact Std.le_trans hab hbc

theorem le_key_total (a b : α) :
    (decide (key a ≤ key b) || decide (key b ≤ key a)) = true := by
  rw [Bool.or_eq_true, decide_eq_true_iff, decide_eq_true_iff]
  exact Std.le_total

theorem pairwise_mergeSort_key (given : List α) :
    (given.mergeSort fun a b => key a ≤ key b).Pairwise fun a b => key a ≤ key b :=
  (List.pairwise_mergeSort (le_key_trans key) (le_key_total key) given).imp
    fun h => of_decide_eq_true h

end Keys

section Stability

variable {α κ : Type} [LE κ] [Std.IsLinearOrder κ] [DecidableEq κ] {key : α → κ}

/-- Merge sort is stable: the elements of one key make up a list that is sorted already, so
sorting keeps them in their order. -/
theorem stablySorted_mergeSort [DecidableLE κ] (key : α → κ) (given : List α) :
    StablySorted key given (given.mergeSort fun a b => key a ≤ key b) := by
  have hperm := List.mergeSort_perm given fun a b => decide (key a ≤ key b)
  refine ⟨hperm, pairwise_mergeSort_key key given, fun k => ?_⟩
  have hequal : (given.filter fun a => key a = k).Pairwise
      fun a b => decide (key a ≤ key b) = true := by
    refine List.pairwise_of_forall_mem_list fun a ha b hb => ?_
    rw [List.mem_filter, decide_eq_true_iff] at ha hb
    rw [decide_eq_true_iff, ha.2, hb.2]
    exact Std.le_refl k
  have hkept := (List.sublist_mergeSort (le_key_trans key) (le_key_total key) hequal
    List.filter_sublist).filter fun a => key a = k
  rw [List.filter_filter] at hkept
  simp only [Bool.and_self] at hkept
  exact (hkept.eq_of_length (hperm.symm.filter _).length_eq).symm

/-- The head of a sorted list has the least key of all that have the same elements. -/
theorem key_head_le {a : α} {rest other : List α}
    (hordered : (a :: rest).Pairwise fun a b => key a ≤ key b)
    (hsame : ∀ k, ((a :: rest).filter fun a => key a = k) = other.filter fun a => key a = k)
    {b : α} (hb : b ∈ other) : key a ≤ key b := by
  have hmem : b ∈ (a :: rest).filter fun a => key a = key b := by
    rw [hsame]
    exact List.mem_filter.mpr ⟨hb, decide_eq_true rfl⟩
  rcases List.mem_cons.mp (List.mem_filter.mp hmem).1 with rfl | hrest
  · exact Std.le_refl _
  · exact List.rel_of_pairwise_cons hordered hrest

/-- Two sorted lists with the same elements of each key, in the same order, are equal. -/
theorem eq_of_filter_key_eq {sorted other : List α}
    (hsorted : sorted.Pairwise fun a b => key a ≤ key b)
    (hother : other.Pairwise fun a b => key a ≤ key b)
    (hsame : ∀ k, (sorted.filter fun a => key a = k) = other.filter fun a => key a = k) :
    sorted = other := by
  induction sorted generalizing other with
  | nil =>
    cases other with
    | nil => rfl
    | cons b other =>
      have hhead := hsame (key b)
      rw [List.filter_nil, List.filter_cons_of_pos (by simp)] at hhead
      exact absurd hhead.symm (List.cons_ne_nil _ _)
  | cons a sorted ih =>
    cases other with
    | nil =>
      have hhead := hsame (key a)
      rw [List.filter_nil, List.filter_cons_of_pos (by simp)] at hhead
      exact absurd hhead (List.cons_ne_nil _ _)
    | cons b other =>
      -- The two heads have the least key of all, so they lead the elements of that key.
      have hkey : key a = key b := Std.le_antisymm
        (key_head_le hsorted hsame (List.mem_cons_self ..))
        (key_head_le hother (fun k => (hsame k).symm) (List.mem_cons_self ..))
      have hhead := hsame (key a)
      rw [List.filter_cons_of_pos (by simp),
        List.filter_cons_of_pos (by simp [hkey])] at hhead
      obtain ⟨rfl, -⟩ := List.cons.inj hhead
      rw [ih hsorted.of_cons hother.of_cons fun k => ?_]
      have hrest := hsame k
      by_cases hk : key a = k
      · rw [List.filter_cons_of_pos (by simpa using hk),
          List.filter_cons_of_pos (by simpa using hk)] at hrest
        exact (List.cons.inj hrest).2
      · rw [List.filter_cons_of_neg (by simpa using hk),
          List.filter_cons_of_neg (by simpa using hk)] at hrest
        exact hrest

/-- There is one way to sort a list stably. -/
theorem StablySorted.unique {given sorted other : List α}
    (h : StablySorted key given sorted) (hother : StablySorted key given other) :
    sorted = other :=
  eq_of_filter_key_eq h.ordered hother.ordered fun k => (h.stable k).trans (hother.stable k).symm

end Stability

/-- Only the keys that come up can tell whether the order of a key was kept. -/
theorem StablySorted.of_forall_mem {α κ : Type} [LE κ] [DecidableEq κ] {key : α → κ}
    {given sorted : List α} (hperm : sorted.Perm given)
    (hordered : sorted.Pairwise fun a b => key a ≤ key b)
    (hstable : ∀ a ∈ given,
      (sorted.filter fun b => key b = key a) = given.filter fun b => key b = key a) :
    StablySorted key given sorted := by
  refine ⟨hperm, hordered, fun k => ?_⟩
  by_cases hk : ∃ a ∈ given, key a = k
  · obtain ⟨a, ha, rfl⟩ := hk
    exact hstable a ha
  · have hgiven : (given.filter fun a => key a = k) = [] := by
      rw [List.filter_eq_nil_iff]
      intro a ha hkey
      exact hk ⟨a, ha, of_decide_eq_true hkey⟩
    rw [hgiven]
    exact (hgiven ▸ hperm.filter _).eq_nil

/-- A comment that says something of some lines, and nothing else. -/
def remark (path : String) (anchor : Anchor) (body : String) : Comment where
  path := path
  anchor := anchor
  marker := none
  author := unknownAuthor
  body := body
  change := none
  createdAt := none

/-! ### Reports -/

/-- The line that a comment starts on: its line, or the first one of its range, wherever the range
ends. -/
def Comment.startLine (comment : Comment) : LineNumber :=
  match comment.anchor with
  | .line number => number
  | .lines range => range.first

/-- A report goes by the line that a comment starts on. -/
theorem Comment.first_anchor (comment : Comment) : comment.anchor.first = comment.startLine := by
  unfold startLine
  cases comment.anchor with
  | line number => rfl
  | lines range => rfl

theorem FileComments.stablySorted_sorted (file : FileComments) :
    StablySorted Comment.startLine file.comments file.sorted.comments := by
  have hsorted : file.sorted.comments =
      file.comments.mergeSort fun a b => a.startLine ≤ b.startLine := by
    simp only [sorted, Comment.first_anchor]
  rw [hsorted]
  exact stablySorted_mergeSort _ _

namespace Report

/-- The files of a report on a sequence of comments. -/
theorem files_ofCollection_ofList_perm (comments : List Comment) :
    (ofCollection (.ofList comments)).files.Perm
      ((firstPaths comments).map fun path =>
        FileComments.sorted ⟨path, commentsOn path comments⟩) := by
  unfold ofCollection
  rw [Collection.files_ofList, List.map_map]
  exact List.mergeSort_perm _ _

/-- The paths of a report are those of the comments, each once. -/
theorem map_path_files_perm (comments : List Comment) :
    ((ofCollection (.ofList comments)).files.map (·.path)).Perm (firstPaths comments) := by
  have hperm := (files_ofCollection_ofList_perm comments).map (·.path)
  rw [List.map_map] at hperm
  simpa [Function.comp_def] using hperm

/-- The paths of a report ascend strictly. -/
theorem pairwise_path_files (comments : List Comment) :
    ((ofCollection (.ofList comments)).files.map (·.path)).Pairwise (· < ·) := by
  have hnodup : ((ofCollection (.ofList comments)).files.map (·.path)).Nodup :=
    (map_path_files_perm comments).nodup_iff.mpr (nodup_firstPaths comments)
  have hordered : ((ofCollection (.ofList comments)).files.map (·.path)).Pairwise (· ≤ ·) :=
    List.pairwise_map.mpr (pairwise_mergeSort_key FileComments.path _)
  exact (hordered.and hnodup).imp fun ⟨hle, hne⟩ => Std.lt_of_le_of_ne hle hne

theorem mem_map_path_files {path : String} {comments : List Comment} :
    path ∈ (ofCollection (.ofList comments)).files.map (·.path) ↔
      ∃ comment ∈ comments, comment.path = path := by
  rw [(map_path_files_perm comments).mem_iff, mem_firstPaths]

/-- Each file of a report holds the comments on its path, stably sorted. -/
theorem stablySorted_of_mem_files {file : FileComments} {comments : List Comment}
    (hmem : file ∈ (ofCollection (.ofList comments)).files) :
    StablySorted Comment.startLine (commentsOn file.path comments) file.comments := by
  rw [(files_ofCollection_ofList_perm comments).mem_iff, List.mem_map] at hmem
  obtain ⟨path, -, rfl⟩ := hmem
  exact FileComments.stablySorted_sorted ⟨path, commentsOn path comments⟩

/-- A report holds the comments it is made of, each once. -/
theorem comments_perm (comments : List Comment) :
    ((ofCollection (.ofList comments)).files.flatMap (·.comments)).Perm comments := by
  have hfiles := (files_ofCollection_ofList_perm comments).flatMap_right (·.comments)
  rw [List.flatMap_map] at hfiles
  have hsorted : ((firstPaths comments).flatMap fun path =>
      (FileComments.sorted ⟨path, commentsOn path comments⟩).comments).Perm
        ((firstPaths comments).flatMap fun path => commentsOn path comments) :=
    List.Perm.flatMap_left _ fun path _ => FileComments.sorted_perm _
  exact hfiles.trans (hsorted.trans (flatMap_commentsOn_firstPaths_perm comments))

/-- **The order of a report.** The paths ascend strictly by their bytes. The comments of each file
are those on its path, those of a line or range by the line they start on, and those that start
on one line as they came. Together the files hold the comments the report is made of. -/
theorem ofCollection_ordered (comments : List Comment) :
    ((ofCollection (.ofList comments)).files.map (·.path)).Pairwise
        (fun path later => utf8Bytes path < utf8Bytes later) ∧
      (∀ file ∈ (ofCollection (.ofList comments)).files,
        StablySorted Comment.startLine (commentsOn file.path comments) file.comments) ∧
      ((ofCollection (.ofList comments)).files.flatMap (·.comments)).Perm comments := by
  refine ⟨?_, fun file hfile => stablySorted_of_mem_files hfile, comments_perm comments⟩
  exact (pairwise_path_files comments).imp fun hlt => lt_iff_utf8Bytes_lt.mp hlt

/-- Remarks on two files. One is on a range that ends before it starts, and one on the line that
the range starts on. -/
def turnedRemarks : List Comment :=
  [remark "b.rs" (.line 1) "other", remark "a.rs" (.line 90) "last",
    remark "a.rs" (.lines ⟨12, 7⟩) "turned", remark "a.rs" (.line 12) "tied",
    remark "a.rs" (.line 3) "first"]

/-- The range stands where it starts, before the remark on that line, which came later. -/
theorem ofCollection_ordered_turnedRemarks :
    ∃ file ∈ (ofCollection (.ofList turnedRemarks)).files, file.path = "a.rs" ∧
      file.comments =
        [remark "a.rs" (.line 3) "first", remark "a.rs" (.lines ⟨12, 7⟩) "turned",
          remark "a.rs" (.line 12) "tied", remark "a.rs" (.line 90) "last"] := by
  obtain ⟨-, hsorted, hperm⟩ := ofCollection_ordered turnedRemarks
  have hfirst : remark "a.rs" (.line 3) "first" ∈
      (ofCollection (.ofList turnedRemarks)).files.flatMap (·.comments) :=
    hperm.mem_iff.mpr (by decide)
  obtain ⟨file, hfile, hcomment⟩ := List.mem_flatMap.mp hfirst
  have hpath : file.path = "a.rs" := by
    have hon := (hsorted file hfile).perm.mem_iff.mp hcomment
    exact (of_decide_eq_true (List.mem_filter.mp hon).2).symm
  have hfilesorted := hsorted file hfile
  rw [hpath] at hfilesorted
  refine ⟨file, hfile, hpath, hfilesorted.unique (.of_forall_mem ?_ ?_ ?_)⟩
  · decide
  · decide
  · decide

theorem sectionCount_ofCollection_ofList (comments : List Comment) :
    (ofCollection (.ofList comments)).sectionCount = comments.length :=
  (comments_perm comments).length_eq

/-- No file of a report is without comments, so a report without comments has no files. -/
theorem isEmpty_ofCollection_ofList_iff (comments : List Comment) :
    (ofCollection (.ofList comments)).isEmpty = true ↔ comments = [] := by
  have hfiles := map_path_files_perm comments
  rw [isEmpty, List.isEmpty_iff]
  constructor
  · intro hnone
    rw [hnone] at hfiles
    exact firstPaths_eq_nil_iff.mp hfiles.nil_eq.symm
  · rintro rfl
    exact List.map_eq_nil_iff.mp hfiles.eq_nil

end Report

end CodeReview
