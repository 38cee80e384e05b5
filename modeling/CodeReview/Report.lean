import CodeReview.Collection

/-!
# CodeReview.Report

The report: collected comments in their final order. Files ascend by path, by the
code points of the path; the comments of a file ascend by the first line they
speak of, and those of one line stay in the order in which they were collected.
-/

namespace CodeReview

/-- Comments in report order. -/
structure Report where
  files : List FileComments
deriving DecidableEq, Repr

/-- The comments of a file in report order. -/
def FileComments.sorted (file : FileComments) : FileComments :=
  { file with comments := file.comments.mergeSort (fun a b => a.anchor.first ≤ b.anchor.first) }

@[simp] theorem FileComments.path_sorted (file : FileComments) : file.sorted.path = file.path := rfl

theorem FileComments.sorted_perm (file : FileComments) :
    file.sorted.comments.Perm file.comments := List.mergeSort_perm _ _

namespace Report

/-- The report of a collection. -/
def ofCollection (collection : Collection) : Report :=
  ⟨(collection.files.map FileComments.sorted).mergeSort (fun a b => a.path ≤ b.path)⟩

/-- The report says nothing. -/
def isEmpty (report : Report) : Bool := report.files.isEmpty

/-- The number of comments in the report, which is the number of its sections. -/
def sectionCount (report : Report) : Nat := (report.files.flatMap (·.comments)).length

end Report

end CodeReview
