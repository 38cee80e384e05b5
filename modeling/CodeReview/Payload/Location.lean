import CodeReview.Marker
import CodeReview.Payload
import CodeReview.Warning

/-!
# CodeReview.Payload.Location

From references to places: where the files of a payload put its threads.

Marker references of all files are read before diff-line references of any file, and
a thread keeps the first place it gets. So a diff line never hides a marker, not
even one of a later file.
-/

namespace CodeReview

open Text (LineNumber)

/-! ### Markers -/

/-- The lines of a marker reference: the line that is known to be the only one, if
there is one, and the range.

* A reference with both ends speaks of that range, even if it is inverted.
* A reference with a start marker other than its own speaks of the lines from there
  to its marker, provided that its own marker names a line; a start marker that
  names none counts as the line itself.
* Any other speaks of the line of its marker. The range is the context of the entry;
  an entry without one has the line alone. -/
def MarkerReference.span? (entry : MarkerEntry) (reference : MarkerReference) :
    Option (Option LineNumber × LineRange) :=
  let own := Marker.line? entry.marker
  let single := (entry.context.or (own.map .single)).map fun context => (own, context)
  match reference.startLine, reference.endLine with
  | some first, some last => some (none, ⟨first, last⟩)
  | _, _ =>
    match reference.startMarker with
    | some start =>
      if start ≠ "" ∧ start ≠ entry.marker then
        own.map fun last => (none, ⟨(Marker.line? start).getD last, last⟩)
      else single
    | none => single

/-- The place of a marker reference, if it says where it is. -/
def MarkerReference.place? (path : String) (entry : MarkerEntry) (reference : MarkerReference) :
    Option Place :=
  (reference.span? entry).map fun (line, context) =>
    { path, marker := some entry.marker, line, context }

/-- The references at the markers of a file, in order, each with its entry. -/
def FileDiff.markerReferences (file : FileDiff) : List (MarkerEntry × MarkerReference) :=
  file.markers.flatMap fun entry => entry.references.map (entry, ·)

/-- The places that the markers of a file give. -/
def FileDiff.markerPlaces (file : FileDiff) : List (ThreadId × Place) :=
  file.markerReferences.filterMap fun (entry, reference) =>
    (reference.place? file.path entry).map (reference.thread, ·)

/-- The references at the markers of a file that do not say where they are, as
marker and thread. -/
def FileDiff.unplaced (file : FileDiff) : List (String × ThreadId) :=
  file.markerReferences.filterMap fun (entry, reference) =>
    if (reference.span? entry).isNone then some (entry.marker, reference.thread) else none

/-! ### Diff lines -/

/-- The place of a reference at a diff line: it starts at the first number that is
given among its start line, its line and the number of the diff line. -/
def LineReference.place? (path : String) (line : DiffLine) (reference : LineReference) :
    Option Place :=
  ((positive reference.startLine).or ((positive reference.line).or line.number)).map
    fun first =>
      { path
        marker := some (Marker.ofLine (line.number.getD first))
        line := some first
        context := ⟨first, (positive reference.endLine).getD first⟩ }

/-- The places that one diff line gives. -/
def DiffLine.places (path : String) (line : DiffLine) : List (ThreadId × Place) :=
  line.references.filterMap fun reference =>
    (reference.place? path line).map (reference.thread, ·)

/-- The places that the diff lines of a file give. -/
def FileDiff.linePlaces (file : FileDiff) : List (ThreadId × Place) :=
  file.lines.flatMap (DiffLine.places file.path)

/-! ### All files -/

/-- The places of threads, and how many each kind of reference gave. -/
structure Resolution where
  table : PlaceTable
  fromMarkers : Nat
  fromLines : Nat

/-- Reads the markers of all files, then their diff lines. -/
def resolve (files : List FileDiff) : Resolution :=
  let byMarker := PlaceTable.grow ∅ (files.flatMap FileDiff.markerPlaces)
  let byLine := byMarker.table.grow (files.flatMap FileDiff.linePlaces)
  ⟨byLine.table, byMarker.added, byLine.added⟩

/-- The warnings about the references that give no place. -/
def placeWarnings (files : List FileDiff) : List Warning :=
  files.flatMap fun file =>
    file.unplaced.map fun (marker, thread) => .noLine file.path marker thread

/-- The places of the threads of a payload. -/
def placesOf (files : List FileDiff) : PlaceTable := (resolve files).table

end CodeReview
