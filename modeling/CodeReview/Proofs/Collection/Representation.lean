import CodeReview.Proofs.Collection.Grouping
import Mathlib.Data.Finset.Card

/-!
# CodeReview.Proofs.Collection.Representation

What holds of a collection after any sequence of pushes, said of the sequence alone: which files
there are and in which order, what each of them holds, and what is counted.

All of it is read off the closed form of the files (`Collection.files_ofList`). The order of the
files is that of the first places of their paths in the sequence; a push puts a new path behind
all others, so this is shown by induction from the end of the sequence.
-/

namespace CodeReview

/-! ### First places -/

/-- The first path comes up before the second one does. -/
def ComesBefore (comments : List Comment) (path later : String) : Prop :=
  (comments.map (·.path)).idxOf path < (comments.map (·.path)).idxOf later

section Append

variable {comments : List Comment} {comment : Comment} {path later : String}

theorem mem_map_path_of_mem_firstPaths (h : path ∈ firstPaths comments) :
    path ∈ comments.map (·.path) := List.mem_eraseDups.mp h

/-- One more comment moves no first place. -/
theorem ComesBefore.append_singleton (h : ComesBefore comments path later)
    (hpath : path ∈ firstPaths comments) (hlater : later ∈ firstPaths comments) :
    ComesBefore (comments ++ [comment]) path later := by
  rw [ComesBefore, List.map_append,
    List.idxOf_append_of_mem (mem_map_path_of_mem_firstPaths hpath),
    List.idxOf_append_of_mem (mem_map_path_of_mem_firstPaths hlater)]
  exact h

/-- A path that comes up with the last comment comes up behind all others. -/
theorem comesBefore_of_notMem (hpath : path ∈ firstPaths comments)
    (hnew : comment.path ∉ firstPaths comments) :
    ComesBefore (comments ++ [comment]) path comment.path := by
  have hmem := mem_map_path_of_mem_firstPaths hpath
  have hnot : comment.path ∉ comments.map (·.path) := fun h => hnew (List.mem_eraseDups.mpr h)
  rw [ComesBefore, List.map_append, List.idxOf_append_of_mem hmem,
    List.idxOf_append_of_notMem hnot]
  exact Nat.lt_add_right _ (List.idxOf_lt_length_of_mem hmem)

end Append

/-- Paths stand in the order in which they come up first. -/
theorem pairwise_comesBefore_firstPaths (comments : List Comment) :
    (firstPaths comments).Pairwise (ComesBefore comments) := by
  induction comments using List.reverseRecOn with
  | nil => exact .nil
  | append_singleton comments comment ih =>
    have hold : (firstPaths comments).Pairwise (ComesBefore (comments ++ [comment])) :=
      ih.imp_of_mem fun hpath hlater h => h.append_singleton hpath hlater
    rw [firstPaths_append_singleton]
    split
    · exact hold
    · next hnew =>
      refine List.pairwise_append.mpr ⟨hold, List.pairwise_singleton _ _, ?_⟩
      intro path hpath later hlater
      obtain rfl := List.mem_singleton.mp hlater
      exact comesBefore_of_notMem hpath hnew

/-- There are as many first places as different paths. -/
theorem length_firstPaths (comments : List Comment) :
    (firstPaths comments).length = (comments.map (·.path)).toFinset.card := by
  rw [← List.toFinset_card_of_nodup (nodup_firstPaths comments)]
  congr 1
  ext path
  simp [mem_firstPaths]

namespace Collection

/-! ### Files -/

theorem map_path_files_ofList (comments : List Comment) :
    (ofList comments).files.map (·.path) = firstPaths comments := by
  rw [files_ofList, List.map_map]
  exact List.map_id _

/-- A file holds the comments on its path, at least one. -/
theorem comments_of_mem_files {file : FileComments} {comments : List Comment}
    (h : file ∈ (ofList comments).files) :
    file.comments = commentsOn file.path comments ∧ file.comments ≠ [] := by
  rw [files_ofList, List.mem_map] at h
  obtain ⟨path, hpath, rfl⟩ := h
  exact ⟨rfl, commentsOn_ne_nil hpath⟩

theorem commentCount_ofList (comments : List Comment) :
    (ofList comments).commentCount = comments.length := by
  rw [commentCount, Collection.comments, files_ofList, List.flatMap_map]
  exact (flatMap_commentsOn_firstPaths_perm comments).length_eq

/-- The collection holds a sequence of comments, gathered by file. -/
structure Gathers (collection : Collection) (comments : List Comment) : Prop where
  /-- No path has two files. -/
  nodup : (collection.files.map (·.path)).Nodup
  /-- The paths are those of the comments. -/
  mem_paths : ∀ path,
    path ∈ collection.files.map (·.path) ↔ ∃ comment ∈ comments, comment.path = path
  /-- The files stand in the order in which their paths come up first. -/
  ordered : (collection.files.map (·.path)).Pairwise (ComesBefore comments)
  /-- No file is empty. -/
  ne_nil : ∀ file ∈ collection.files, file.comments ≠ []
  /-- A file holds the comments on its path, in their order. -/
  comments_eq : ∀ file ∈ collection.files,
    file.comments = comments.filter (·.path = file.path)
  fileCount_eq : collection.fileCount = (comments.map (·.path)).toFinset.card
  commentCount_eq : collection.commentCount = comments.length
  isEmpty_iff : collection.isEmpty = true ↔ comments = []

/-- **What a collection is after any pushes.** -/
theorem gathers_ofList (comments : List Comment) : (ofList comments).Gathers comments where
  nodup := by
    rw [map_path_files_ofList]
    exact nodup_firstPaths comments
  mem_paths path := by
    rw [map_path_files_ofList]
    exact mem_firstPaths
  ordered := by
    rw [map_path_files_ofList]
    exact pairwise_comesBefore_firstPaths comments
  ne_nil file hfile := (comments_of_mem_files hfile).2
  comments_eq file hfile := (comments_of_mem_files hfile).1
  fileCount_eq := by
    rw [fileCount, ← List.length_map (·.path), map_path_files_ofList, length_firstPaths]
  commentCount_eq := commentCount_ofList comments
  isEmpty_iff := by
    rw [isEmpty, List.isEmpty_iff, ← List.map_eq_nil_iff (f := (·.path)), map_path_files_ofList,
      firstPaths_eq_nil_iff]

end Collection

end CodeReview
