import CodeReview.Payload.Location
import CodeReview.Proofs.Places.FirstWriter

/-!
# CodeReview.Proofs.Places.Precedence

Which of several references places a thread. The table of a payload reads like two lists
one after the other: the places that the markers of all files give, then the places that
the diff lines of all files give. Of each list the first entry of a thread counts, so the
diff lines of a file, whichever file it is, decide only about threads without a marker.
-/

namespace CodeReview

/-! ### The table of a payload -/

/-- A marker of any file comes before a diff line of any file. -/
theorem getElem?_placesOf (files : List FileDiff) (id : ThreadId) :
    (placesOf files)[id]? =
      ((files.flatMap FileDiff.markerPlaces).lookup id).or
        ((files.flatMap FileDiff.linePlaces).lookup id) := by
  unfold placesOf resolve
  rw [PlaceTable.getElem?_grow, PlaceTable.getElem?_grow, Std.ExtTreeMap.getElem?_empty,
    Option.none_or]

/-- A thread has a place exactly if an entry of one of the two lists names it. -/
theorem mem_placesOf_iff {files : List FileDiff} {id : ThreadId} :
    id ∈ placesOf files ↔
      ∃ place, (id, place) ∈ files.flatMap FileDiff.markerPlaces ∨
        (id, place) ∈ files.flatMap FileDiff.linePlaces := by
  have hempty : id ∉ (∅ : PlaceTable) := Std.ExtTreeMap.not_mem_empty
  unfold placesOf resolve
  rw [PlaceTable.mem_grow_iff, PlaceTable.mem_grow_iff, or_iff_right hempty, exists_or]

/-- The entries that count are as many as the threads that have a place. -/
theorem size_placesOf (files : List FileDiff) :
    (placesOf files).size = (resolve files).fromMarkers + (resolve files).fromLines := by
  have hmarkers := PlaceTable.size_grow ∅ (files.flatMap FileDiff.markerPlaces)
  have hlines := PlaceTable.size_grow
    (PlaceTable.grow ∅ (files.flatMap FileDiff.markerPlaces)).table
    (files.flatMap FileDiff.linePlaces)
  rw [Std.ExtTreeMap.size_empty, Nat.zero_add] at hmarkers
  rw [hmarkers] at hlines
  exact hlines

/-! ### Other diff lines -/

/-- The files with other diff lines: `lines` tells for each position the lines of the file
there. -/
def replaceLines (lines : Nat → List DiffLine) (files : List FileDiff) : List FileDiff :=
  files.mapIdx fun i file => { file with lines := lines i }

/-- What the markers say does not depend on the diff lines. -/
theorem flatMap_markerPlaces_replaceLines (lines : Nat → List DiffLine)
    (files : List FileDiff) :
    (replaceLines lines files).flatMap FileDiff.markerPlaces =
      files.flatMap FileDiff.markerPlaces := by
  induction files generalizing lines with
  | nil => rfl
  | cons file files ih =>
    have hrest := ih (fun i => lines (i + 1))
    unfold replaceLines at hrest ⊢
    rw [List.mapIdx_cons, List.flatMap_cons, List.flatMap_cons, hrest]
    rfl

/-! ### Precedence -/

/-- **Precedence of places.** A thread is where the first marker entry that names it puts
it, else where the first diff-line entry that names it puts it, else nowhere. So whatever
the diff lines are, a thread with a marker stays where it is; and the two counts of
entries make up the size of the table. -/
theorem placesOf_precedence (files : List FileDiff) :
    (∀ id, (placesOf files)[id]? =
      ((files.flatMap FileDiff.markerPlaces).lookup id).or
        ((files.flatMap FileDiff.linePlaces).lookup id)) ∧
    (∀ id, id ∉ placesOf files ↔
      ∀ place, (id, place) ∉ files.flatMap FileDiff.markerPlaces ∧
        (id, place) ∉ files.flatMap FileDiff.linePlaces) ∧
    (∀ lines id place, (id, place) ∈ files.flatMap FileDiff.markerPlaces →
      (placesOf (replaceLines lines files))[id]? = (placesOf files)[id]?) ∧
    (resolve files).fromMarkers + (resolve files).fromLines = (placesOf files).size := by
  refine ⟨getElem?_placesOf files, ?_, ?_, (size_placesOf files).symm⟩
  · intro id
    rw [mem_placesOf_iff, not_exists]
    exact forall_congr' fun _ => not_or
  · intro lines id place hmem
    have hmarker : ((files.flatMap FileDiff.markerPlaces).lookup id).isSome = true := by
      rw [List.lookup_isSome_iff]
      exact ⟨(id, place), hmem, beq_self_eq_true id⟩
    obtain ⟨first, hfirst⟩ := Option.isSome_iff_exists.mp hmarker
    rw [getElem?_placesOf, getElem?_placesOf, flatMap_markerPlaces_replaceLines, hfirst,
      Option.some_or, Option.some_or]

/-- A file with a diff line that names a thread, and a later file with a marker that does. -/
def lineBeforeMarker : List FileDiff :=
  [⟨"a.rs", [], [⟨some 3, none, [⟨"9", none, none, none⟩]⟩]⟩,
    ⟨"b.rs", [⟨"R30", some ⟨28, 32⟩, [⟨"9", none, none, none⟩]⟩], []⟩]

/-- The marker of the later file counts, with the diff line and without it. -/
theorem placesOf_lineBeforeMarker :
    ("9", ⟨"b.rs", some "R30", some 30, ⟨28, 32⟩⟩) ∈
        lineBeforeMarker.flatMap FileDiff.markerPlaces ∧
      (placesOf (replaceLines (fun _ => []) lineBeforeMarker))["9"]? =
        (placesOf lineBeforeMarker)["9"]? ∧
      (placesOf lineBeforeMarker)["9"]? = some ⟨"b.rs", some "R30", some 30, ⟨28, 32⟩⟩ := by
  have hmem : ("9", ⟨"b.rs", some "R30", some 30, ⟨28, 32⟩⟩) ∈
      lineBeforeMarker.flatMap FileDiff.markerPlaces := by decide
  obtain ⟨hplace, -, hlines, -⟩ := placesOf_precedence lineBeforeMarker
  exact ⟨hmem, hlines (fun _ => []) "9" _ hmem, (hplace "9").trans (by decide)⟩

end CodeReview
