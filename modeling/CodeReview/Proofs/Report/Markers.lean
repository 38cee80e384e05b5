import CodeReview.Proofs.Collection.Grouping
import CodeReview.Report.Render

/-!
# CodeReview.Proofs.Report.Markers

Markers are carried along and decide nothing: a report without the markers of its comments is
the report on the comments without their markers, and it has the same text.
-/

namespace CodeReview

/-- The comment without the marker that located it. -/
def Comment.withoutMarker (comment : Comment) : Comment := { comment with marker := none }

/-- The comments of a file without their markers. -/
def FileComments.withoutMarkers (file : FileComments) : FileComments :=
  { file with comments := file.comments.map Comment.withoutMarker }

/-- The report without the markers of its comments. -/
def Report.withoutMarkers (report : Report) : Report :=
  ⟨report.files.map FileComments.withoutMarkers⟩

/-! ### Order -/

theorem firstPaths_map_withoutMarker (comments : List Comment) :
    firstPaths (comments.map Comment.withoutMarker) = firstPaths comments := by
  rw [firstPaths, List.map_map]
  rfl

theorem commentsOn_map_withoutMarker (path : String) (comments : List Comment) :
    commentsOn path (comments.map Comment.withoutMarker) =
      (commentsOn path comments).map Comment.withoutMarker := by
  rw [commentsOn, List.filter_map]
  rfl

theorem FileComments.sorted_withoutMarkers (file : FileComments) :
    file.withoutMarkers.sorted = file.sorted.withoutMarkers := by
  have hsort : (file.comments.mergeSort fun a b => a.anchor.first ≤ b.anchor.first).map
      Comment.withoutMarker =
      (file.comments.map Comment.withoutMarker).mergeSort
        fun a b => a.anchor.first ≤ b.anchor.first :=
    List.map_mergeSort fun _ _ _ _ => rfl
  exact congrArg (FileComments.mk file.path) hsort.symm

theorem Collection.files_ofList_map_withoutMarker (comments : List Comment) :
    (ofList (comments.map Comment.withoutMarker)).files =
      (ofList comments).files.map FileComments.withoutMarkers := by
  rw [files_ofList, files_ofList, firstPaths_map_withoutMarker, List.map_map]
  refine List.map_congr_left fun path _ => ?_
  rw [commentsOn_map_withoutMarker]
  rfl

/-- Leaving the markers out first or last makes the same report. -/
theorem Report.ofCollection_map_withoutMarker (comments : List Comment) :
    ofCollection (.ofList (comments.map Comment.withoutMarker)) =
      (ofCollection (.ofList comments)).withoutMarkers := by
  have hsorted : FileComments.sorted ∘ FileComments.withoutMarkers =
      FileComments.withoutMarkers ∘ FileComments.sorted :=
    funext FileComments.sorted_withoutMarkers
  have hsort : (((Collection.ofList comments).files.map FileComments.sorted).mergeSort
      fun a b => a.path ≤ b.path).map FileComments.withoutMarkers =
      (((Collection.ofList comments).files.map FileComments.sorted).map
        FileComments.withoutMarkers).mergeSort fun a b => a.path ≤ b.path :=
    List.map_mergeSort fun _ _ _ _ => rfl
  unfold ofCollection withoutMarkers
  rw [Collection.files_ofList_map_withoutMarker, List.map_map, hsorted, ← List.map_map, hsort]

/-! ### Text -/

theorem Report.fileText_withoutMarkers (style : Style) (file : FileComments) :
    fileText style file.withoutMarkers = fileText style file := by
  have hsections : sectionText style file.path ∘ Comment.withoutMarker =
      sectionText style file.path := rfl
  rw [fileText, fileText, FileComments.withoutMarkers, List.map_map, hsections]

theorem Report.render_withoutMarkers (style : Style) (report : Report) :
    report.withoutMarkers.render style = report.render style := by
  have hfiles : fileText style ∘ FileComments.withoutMarkers = fileText style :=
    funext (fileText_withoutMarkers style)
  rw [render, render, withoutMarkers, List.map_map, hfiles]

end CodeReview
