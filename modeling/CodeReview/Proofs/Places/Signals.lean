import CodeReview.Proofs.Places.Inversion

/-!
# CodeReview.Proofs.Places.Signals

Which references at markers are given up. There are four things by which a reference can say
where it is; one that has none of them is given up. But one that has a start marker of its own
goes by the line of the marker that it is at, and by nothing else: where that marker names no
line the reference is *stranded*, whatever else it has.
-/

namespace CodeReview

namespace MarkerReference

/-- The reference has something that tells a line: both ends of a range, a marker that names a
line, a context, or a start marker that names a line. -/
def hasSignal (entry : MarkerEntry) (reference : MarkerReference) : Bool :=
  (reference.startLine.isSome && reference.endLine.isSome) ||
    (Marker.line? entry.marker).isSome || entry.context.isSome ||
    (reference.startMarker.bind Marker.line?).isSome

/-- The reference has a start marker of its own, and is at a marker that names no line. -/
def isStranded (entry : MarkerEntry) (reference : MarkerReference) : Bool :=
  !(reference.startLine.isSome && reference.endLine.isSome) &&
    (Attachment.chained? entry reference).isSome && (Marker.line? entry.marker).isNone

/-- The reference is put somewhere. -/
def isPlaced (entry : MarkerEntry) (reference : MarkerReference) : Bool :=
  reference.hasSignal entry && !reference.isStranded entry

/-! ### One reference -/

/-- Without a start marker of its own, a reference at a marker that names no line has no start
marker that does. -/
theorem bind_line?_of_chained?_eq_none {entry : MarkerEntry} {reference : MarkerReference}
    (hchain : Attachment.chained? entry reference = none)
    (hmarker : Marker.line? entry.marker = none) :
    reference.startMarker.bind Marker.line? = none := by
  cases hstart : reference.startMarker with
  | none => rfl
  | some start =>
    rw [Attachment.chained?, hstart, Option.filter_eq_none_iff] at hchain
    have hown := hchain start rfl
    rw [decide_eq_true_iff] at hown
    by_cases hempty : start = ""
    · subst hempty
      rfl
    · have hsame : start = entry.marker := Decidable.not_not.mp fun h => hown ⟨hempty, h⟩
      rw [hsame]
      exact hmarker

/-- A reference speaks of a range exactly if it has a signal and is not stranded. -/
theorem isSome_span? (entry : MarkerEntry) (reference : MarkerReference) :
    (reference.span? entry).isSome = reference.isPlaced entry := by
  unfold isPlaced hasSignal isStranded
  cases hexplicit : reference.startLine.isSome && reference.endLine.isSome with
  | true =>
    rw [Bool.and_eq_true, Option.isSome_iff_exists, Option.isSome_iff_exists] at hexplicit
    obtain ⟨⟨first, hfirst⟩, last, hlast⟩ := hexplicit
    simp [span?, hfirst, hlast]
  | false =>
    have himplicit : (Attachment.atMarker "" entry reference).isExplicit = false := hexplicit
    rw [Attachment.span?_of_implicit himplicit]
    cases hmarker : Marker.line? entry.marker with
    | some line => cases Attachment.chained? entry reference <;> simp
    | none =>
      cases hchain : Attachment.chained? entry reference with
      | some start => simp
      | none => simp [bind_line?_of_chained?_eq_none hchain hmarker]

theorem isSome_place? (path : String) (entry : MarkerEntry) (reference : MarkerReference) :
    (reference.place? path entry).isSome = reference.isPlaced entry := by
  rw [place?, Option.isSome_map, isSome_span?]

/-- A reference is given up exactly if it has no signal or is stranded. -/
theorem place?_eq_none_iff {path : String} {entry : MarkerEntry} {reference : MarkerReference} :
    reference.place? path entry = none ↔
      reference.hasSignal entry = false ∨ reference.isStranded entry = true := by
  rw [← Option.not_isSome_iff_eq_none, isSome_place?, isPlaced, Bool.not_eq_true,
    Bool.and_eq_false_iff, Bool.not_eq_false']

end MarkerReference

/-! ### The references of a file -/

/-- The references that are put somewhere give an entry each, in order. -/
theorem map_marker_markerPlaces (file : FileDiff) :
    (file.markerPlaces.map fun (thread, place) => (place.marker, thread)) =
      (file.markerReferences.filter fun (entry, reference) => reference.isPlaced entry).map
        fun (entry, reference) => (some entry.marker, reference.thread) := by
  rw [FileDiff.markerPlaces, List.map_filterMap, ← List.filterMap_eq_map, List.filterMap_filter]
  congr 1
  funext ⟨entry, reference⟩
  simp only [← MarkerReference.isSome_span?, MarkerReference.place?]
  cases reference.span? entry <;> rfl

/-- The references that are given up raise a warning each, in order. -/
theorem placeWarnings_singleton (file : FileDiff) :
    placeWarnings [file] =
      (file.markerReferences.filter fun (entry, reference) => !reference.isPlaced entry).map
        fun (entry, reference) => .noLine file.path entry.marker reference.thread := by
  rw [placeWarnings, List.flatMap_singleton, FileDiff.unplaced, List.map_filterMap,
    ← List.filterMap_eq_map, List.filterMap_filter]
  congr 1
  funext ⟨entry, reference⟩
  simp only [← MarkerReference.isSome_span?]
  cases reference.span? entry <;> rfl

/-- **Which references at markers are given up.** Those that have no signal, and those that are
stranded. Every other one gives an entry and raises no warning; these give none and raise one
warning each. -/
theorem markerReferences_given_up_iff (file : FileDiff) :
    (∀ entry reference, MarkerReference.place? file.path entry reference = none ↔
      reference.hasSignal entry = false ∨ reference.isStranded entry = true) ∧
    (file.markerPlaces.map fun (thread, place) => (place.marker, thread)) =
      ((file.markerReferences.filter fun (entry, reference) =>
        reference.hasSignal entry && !reference.isStranded entry).map
          fun (entry, reference) => (some entry.marker, reference.thread)) ∧
    placeWarnings [file] =
      ((file.markerReferences.filter fun (entry, reference) =>
        !reference.hasSignal entry || reference.isStranded entry).map
          fun (entry, reference) => .noLine file.path entry.marker reference.thread) := by
  refine ⟨fun _ _ => MarkerReference.place?_eq_none_iff, map_marker_markerPlaces file, ?_⟩
  rw [placeWarnings_singleton]
  congr 2
  funext ⟨entry, reference⟩
  dsimp only
  rw [MarkerReference.isPlaced, Bool.not_and, Bool.not_not]

/-- A file with a reference from line 3 on, at a marker that names no line, with line 3 as its
context. -/
def strandedFile : FileDiff where
  path := "a.rs"
  markers := [⟨"X25", some ⟨3, 3⟩, [⟨"t", none, none, some "R3"⟩]⟩]
  lines := []

/-- The reference is given up, with two signals. -/
theorem not_placed_of_hasSignal :
    (∀ entry ∈ strandedFile.markers, ∀ reference ∈ entry.references,
      reference.hasSignal entry = true ∧ entry.context = some ⟨3, 3⟩ ∧
        reference.startMarker.bind Marker.line? = some 3 ∧
        reference.place? strandedFile.path entry = none) ∧
      strandedFile.markerPlaces = [] ∧
      placeWarnings [strandedFile] = [.noLine "a.rs" "X25" "t"] := by
  decide

end CodeReview
