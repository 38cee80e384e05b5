import CodeReview.Proofs.Places.Precedence

/-!
# CodeReview.Proofs.Places.Inversion

When the range of a place ends before it starts. No reference puts its numbers in order:
a range is inverted exactly if the numbers that it is made of are, and these need not be
a start line and an end line that the reference gives together.

Design points:

* An `Attachment` is a reference with all that it stands at, so that the two kinds of
  references can be spoken of together.
* `origin?` is the attachment that a place of the table comes from.
-/

namespace CodeReview

open Text (LineNumber)

/-! ### References with what they stand at -/

/-- A reference to a thread, in the file of the given path. -/
inductive Attachment
  /-- A reference at a marker. -/
  | atMarker (path : String) (entry : MarkerEntry) (reference : MarkerReference)
  /-- A reference at a diff line. -/
  | atLine (path : String) (line : DiffLine) (reference : LineReference)
deriving DecidableEq, Repr

namespace Attachment

/-- The thread that is referred to. -/
def thread : Attachment → ThreadId
  | atMarker _ _ reference => reference.thread
  | atLine _ _ reference => reference.thread

/-- The place that the reference gives, if it says where it is. -/
def place? : Attachment → Option Place
  | atMarker path entry reference => reference.place? path entry
  | atLine path line reference => reference.place? path line

/-- The reference itself gives both a start line and an end line. -/
def isExplicit : Attachment → Bool
  | atMarker _ _ reference => reference.startLine.isSome && reference.endLine.isSome
  | atLine _ _ reference => reference.startLine.isSome && reference.endLine.isSome

/-- The start marker of a reference, unless it is empty or the marker that the reference
is at. -/
def chained? (entry : MarkerEntry) (reference : MarkerReference) : Option String :=
  reference.startMarker.filter fun start => start ≠ "" ∧ start ≠ entry.marker

/-- The numbers that the range is made of are in the wrong order.

* At a marker, the start marker names a line behind that of the marker; or there is no
  start marker, and the context of the entry is inverted.
* At a diff line, the end line is before the line on which the reference starts. -/
def Inverted : Attachment → Prop
  | atMarker _ entry reference =>
    match chained? entry reference with
    | some start => ∃ first last,
        Marker.line? start = some first ∧ Marker.line? entry.marker = some last ∧ last < first
    | none => ∃ context, entry.context = some context ∧ context.last < context.first
  | atLine _ line reference => ∃ first last,
      ((positive reference.startLine).or ((positive reference.line).or line.number)) =
          some first ∧
        positive reference.endLine = some last ∧ last < first

end Attachment

/-- The attachments of a file at its markers, in order. -/
def FileDiff.markerAttachments (file : FileDiff) : List Attachment :=
  file.markerReferences.map fun (entry, reference) => .atMarker file.path entry reference

/-- The attachments of a file at its diff lines, in order. -/
def FileDiff.lineAttachments (file : FileDiff) : List Attachment :=
  file.lines.flatMap fun line => line.references.map (.atLine file.path line)

/-- All attachments of a payload: first those at the markers of all files, then those at
their diff lines. -/
def attachments (files : List FileDiff) : List Attachment :=
  files.flatMap FileDiff.markerAttachments ++ files.flatMap FileDiff.lineAttachments

/-- The attachment that decides about a thread: the first one that refers to it and gives a
place. -/
def origin? (files : List FileDiff) (id : ThreadId) : Option Attachment :=
  (attachments files).find? fun attachment =>
    attachment.thread = id ∧ attachment.place?.isSome

/-! ### Where a place comes from -/

/-- The entry that an attachment adds to the table. -/
def Attachment.entry? (attachment : Attachment) : Option (ThreadId × Place) :=
  attachment.place?.map (attachment.thread, ·)

theorem markerPlaces_eq_filterMap (file : FileDiff) :
    file.markerPlaces = file.markerAttachments.filterMap Attachment.entry? := by
  unfold FileDiff.markerPlaces FileDiff.markerAttachments
  rw [List.filterMap_map]
  rfl

theorem linePlaces_eq_filterMap (file : FileDiff) :
    file.linePlaces = file.lineAttachments.filterMap Attachment.entry? := by
  unfold FileDiff.linePlaces FileDiff.lineAttachments DiffLine.places
  rw [List.filterMap_flatMap]
  congr 1
  funext line
  rw [List.filterMap_map]
  rfl

/-- The first entry of an id is that of the first attachment which refers to it and gives a
place. -/
theorem lookup_filterMap_entry? (id : ThreadId) (attachments : List Attachment) :
    (attachments.filterMap Attachment.entry?).lookup id =
      (attachments.find? fun attachment =>
        attachment.thread = id ∧ attachment.place?.isSome).bind Attachment.place? := by
  induction attachments with
  | nil => rfl
  | cons attachment attachments ih =>
    rw [List.find?_cons]
    cases hplace : attachment.place? with
    | none =>
      rw [List.filterMap_cons_none (by simp [Attachment.entry?, hplace]), ih]
      simp
    | some place =>
      rw [List.filterMap_cons_some (by simp [Attachment.entry?, hplace]; rfl),
        List.lookup_cons]
      by_cases hid : attachment.thread = id
      · simp [hid, hplace]
      · rw [beq_eq_false_iff_ne.mpr (Ne.symm hid)]
        simp [hid, ih]

/-- The table holds what the deciding attachments give. -/
theorem getElem?_placesOf_eq_origin? (files : List FileDiff) (id : ThreadId) :
    (placesOf files)[id]? = (origin? files id).bind Attachment.place? := by
  have hentries : files.flatMap FileDiff.markerPlaces ++ files.flatMap FileDiff.linePlaces =
      (attachments files).filterMap Attachment.entry? := by
    rw [attachments, List.filterMap_append, List.filterMap_flatMap, List.filterMap_flatMap,
      funext markerPlaces_eq_filterMap, funext linePlaces_eq_filterMap]
  rw [getElem?_placesOf, ← List.lookup_append, hentries, lookup_filterMap_entry?, origin?]

/-! ### The order of the two ends -/

namespace Attachment

/-- A reference that does not give both ends speaks of the lines from its start marker on,
if it has one, and else of the context of its entry. -/
theorem span?_of_implicit {path : String} {entry : MarkerEntry} {reference : MarkerReference}
    (himplicit : (atMarker path entry reference).isExplicit = false) :
    reference.span? entry =
      match chained? entry reference with
      | some start => (Marker.line? entry.marker).map fun last =>
        (none, ⟨(Marker.line? start).getD last, last⟩)
      | none => (entry.context.or ((Marker.line? entry.marker).map .single)).map fun context =>
        (Marker.line? entry.marker, context) := by
  unfold MarkerReference.span? chained?
  dsimp only
  split
  next first last hfirst hlast => simp [isExplicit, hfirst, hlast] at himplicit
  next =>
    cases reference.startMarker with
    | none => rfl
    | some start =>
      rw [Option.filter_some]
      by_cases hstart : start ≠ "" ∧ start ≠ entry.marker
      · rw [if_pos (decide_eq_true hstart)]
        exact if_pos hstart
      · rw [if_neg (by rw [decide_eq_true_iff]; exact hstart)]
        exact if_neg hstart

/-- At a marker: unless the reference gives both ends, the range is inverted exactly if the
start marker, or else the context of the entry, inverts it. -/
theorem context_inverted_iff_of_marker {path : String} {entry : MarkerEntry}
    {reference : MarkerReference} {place : Place}
    (himplicit : (atMarker path entry reference).isExplicit = false)
    (hplace : reference.place? path entry = some place) :
    place.context.last < place.context.first ↔ (atMarker path entry reference).Inverted := by
  obtain ⟨⟨line, context⟩, hspan, rfl⟩ := Option.map_eq_some_iff.mp hplace
  rw [span?_of_implicit himplicit] at hspan
  simp only [Inverted]
  cases hchain : chained? entry reference with
  | some start =>
    rw [hchain] at hspan
    obtain ⟨last, hlast, hpair⟩ := Option.map_eq_some_iff.mp hspan
    obtain ⟨rfl, rfl⟩ := Prod.mk.inj hpair
    simp only [hlast, Option.some.injEq, exists_and_left, exists_eq_left']
    cases Marker.line? start with
    | none => simp
    | some first => simp
  | none =>
    rw [hchain] at hspan
    obtain ⟨given, hgiven, hpair⟩ := Option.map_eq_some_iff.mp hspan
    obtain ⟨rfl, rfl⟩ := Prod.mk.inj hpair
    cases hcontext : entry.context with
    | some window =>
      rw [hcontext, Option.some_or, Option.some.injEq] at hgiven
      subst hgiven
      simp
    | none =>
      -- Without a context the range is the line of the marker alone.
      rw [hcontext, Option.none_or] at hgiven
      obtain ⟨own, -, rfl⟩ := Option.map_eq_some_iff.mp hgiven
      simp [LineRange.single]

/-- At a diff line the range is inverted exactly if the end line is before the first line,
whether or not the reference gives a start line. -/
theorem context_inverted_iff_of_line {path : String} {line : DiffLine}
    {reference : LineReference} {place : Place}
    (hplace : reference.place? path line = some place) :
    place.context.last < place.context.first ↔ (atLine path line reference).Inverted := by
  obtain ⟨first, hfirst, rfl⟩ := Option.map_eq_some_iff.mp hplace
  simp only [Inverted, hfirst, Option.some.injEq, exists_and_left, exists_eq_left']
  cases positive reference.endLine with
  | none => simp
  | some last => simp

/-- Unless the reference gives both ends, the range of its place is in order exactly if the
numbers that the range is made of are. -/
theorem context_ordered_iff {attachment : Attachment} {place : Place}
    (himplicit : attachment.isExplicit = false) (hplace : attachment.place? = some place) :
    place.context.first ≤ place.context.last ↔ ¬ attachment.Inverted := by
  rw [← UInt32.not_lt]
  cases attachment with
  | atMarker path entry reference =>
    exact not_congr (context_inverted_iff_of_marker himplicit hplace)
  | atLine path line reference =>
    exact not_congr (context_inverted_iff_of_line hplace)

end Attachment

/-! ### Places of a payload -/

/-- **Which ranges are in order.** Every place of the table comes from an attachment of its
thread. Unless that reference gives both a start line and an end line, the range of the
place is in order exactly if the start marker names no line behind that of the marker, the
context that serves without a start marker is in order, and the end line at a diff line is
not before the line on which the reference starts. -/
theorem placesOf_context_ordered_iff {files : List FileDiff} {id : ThreadId} {place : Place}
    (hplace : (placesOf files)[id]? = some place) :
    ∃ attachment ∈ attachments files,
      origin? files id = some attachment ∧ attachment.thread = id ∧
        attachment.place? = some place ∧
        (attachment.isExplicit = false →
          (place.context.first ≤ place.context.last ↔ ¬ attachment.Inverted)) := by
  rw [getElem?_placesOf_eq_origin?] at hplace
  obtain ⟨attachment, horigin, hgives⟩ := Option.bind_eq_some_iff.mp hplace
  have hthread := List.find?_some horigin
  rw [decide_eq_true_iff] at hthread
  exact ⟨attachment, List.mem_of_find?_eq_some horigin, horigin, hthread.1, hgives,
    fun himplicit => Attachment.context_ordered_iff himplicit hgives⟩

/-- A file whose references give inverted ranges: by a start marker, by the context of the
entry, and by an end line without a start line. -/
def invertedFile : FileDiff where
  path := "a.rs"
  markers :=
    [⟨"R10", none, [⟨"chained", none, none, some "R20"⟩]⟩,
      ⟨"R5", some ⟨9, 3⟩, [⟨"window", none, none, none⟩]⟩]
  lines := [⟨some 8, none, [⟨"ended", none, none, some 2⟩]⟩]

/-- The range of a start marker behind its marker, which is inverted. -/
theorem placesOf_context_ordered_iff_chained :
    (placesOf [invertedFile])["chained"]? = some ⟨"a.rs", some "R10", none, ⟨20, 10⟩⟩ ∧
      ∃ attachment ∈ attachments [invertedFile],
        origin? [invertedFile] "chained" = some attachment ∧ attachment.thread = "chained" ∧
          attachment.place? = some ⟨"a.rs", some "R10", none, ⟨20, 10⟩⟩ ∧
          (attachment.isExplicit = false →
            ((20 : LineNumber) ≤ 10 ↔ ¬ attachment.Inverted)) := by
  have hplace : (placesOf [invertedFile])["chained"]? =
      some ⟨"a.rs", some "R10", none, ⟨20, 10⟩⟩ :=
    (getElem?_placesOf_eq_origin? _ _).trans (by decide)
  exact ⟨hplace, placesOf_context_ordered_iff hplace⟩

/-- None of these references gives both ends, and none of their ranges is in order. -/
theorem not_context_ordered_of_implicit :
    (∀ attachment ∈ attachments [invertedFile], attachment.isExplicit = false) ∧
      ∀ id ∈ ["chained", "window", "ended"], ∃ place,
        (placesOf [invertedFile])[id]? = some place ∧
          ¬ place.context.first ≤ place.context.last := by
  refine ⟨by decide, ?_⟩
  simp only [getElem?_placesOf_eq_origin?, List.forall_mem_cons]
  refine ⟨⟨⟨"a.rs", some "R10", none, ⟨20, 10⟩⟩, by decide, by decide⟩,
    ⟨⟨"a.rs", some "R5", some 5, ⟨9, 3⟩⟩, by decide, by decide⟩,
    ⟨⟨"a.rs", some "L8", some 8, ⟨8, 2⟩⟩, by decide, by decide⟩, ?_⟩
  exact List.forall_mem_nil _

end CodeReview
