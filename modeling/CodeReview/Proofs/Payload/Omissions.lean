import CodeReview.Proofs.Payload.Shape
import CodeReview.Proofs.Places.Signals

/-!
# CodeReview.Proofs.Payload.Omissions

What is left out of a payload, and what is said of it. `Sifted` says that of the parts of a list
each is kept or left out with one warning, both in the order of the parts; so nothing disappears
without a warning, and nothing is warned of twice. Threads, marker entries and diff lines are
sifted, and so are the references at markers where places are looked for. File summaries are
read by `FilesRead`, which has one rule for each thing that can become of a summary: what is
inside one that is left out raises no warning of its own.
-/

namespace CodeReview

/-! ### Sifting -/

/-- Of the parts, in order, each is kept as what it reads as, or left out with one warning. -/
inductive Sifted {α β : Type} (read : β → Option α) (warning : β → Warning) :
    List β → List α → List Warning → Prop
  | nil : Sifted read warning [] [] []
  | keep {part : β} {record : α} {parts : List β} {kept : List α} {warnings : List Warning} :
      read part = some record → Sifted read warning parts kept warnings →
      Sifted read warning (part :: parts) (record :: kept) warnings
  | leave {part : β} {parts : List β} {kept : List α} {warnings : List Warning} :
      read part = none → Sifted read warning parts kept warnings →
      Sifted read warning (part :: parts) kept (warning part :: warnings)

namespace Sifted

variable {α β : Type} {read : β → Option α} {warning : β → Warning} {parts : List β}
  {kept : List α} {warnings : List Warning}

/-- Parts are sifted by a condition that says which of them can be read. -/
theorem of_filter {used : β → Bool} (hused : ∀ part, (read part).isSome = used part)
    (parts : List β) :
    Sifted read warning parts (parts.filterMap read)
      ((parts.filter fun part => !used part).map warning) := by
  induction parts with
  | nil => exact .nil
  | cons part parts ih =>
    have hpart := hused part
    cases hread : read part with
    | some record =>
      rw [hread, Option.isSome_some] at hpart
      rw [List.filterMap_cons_some hread, List.filter_cons_of_neg (by simp [← hpart])]
      exact .keep hread ih
    | none =>
      rw [hread, Option.isSome_none] at hpart
      rw [List.filterMap_cons_none hread, List.filter_cons_of_pos (by simp [← hpart])]
      exact .leave hread ih

theorem length_add (h : Sifted read warning parts kept warnings) :
    kept.length + warnings.length = parts.length := by
  induction h with
  | nil => rfl
  | keep _ _ ih => simp only [List.length_cons]; omega
  | leave _ _ ih => simp only [List.length_cons]; omega

end Sifted

namespace Decode

open Json

theorem Reading.sifted_each_ofRecord {α β : Type} (kind : RecordKind) (key : β → String)
    (read : β → Option α) (parts : List β) :
    Sifted read (fun part => .malformed kind (key part)) parts
      (Reading.each (fun part => .ofRecord kind (key part) (read part)) parts).kept
      (Reading.each (fun part => .ofRecord kind (key part) (read part)) parts).warnings := by
  induction parts with
  | nil => exact .nil
  | cons part parts ih =>
    simp only [Reading.each, List.flatMap_cons]
    cases hread : read part with
    | some record => exact .keep hread ih
    | none => exact .leave hread ih

/-! ### Parts of a payload -/

/-- Of the entries of an object of threads the well-formed ones are kept; any other is called by
its key. -/
def ThreadsRead : Fields → List Thread → List Warning → Prop :=
  Sifted (fun (key, value) => thread? key value) fun (key, _) => .malformed .thread key

/-- Of the entries of an object of markers the well-formed ones are kept; any other is called by
its key. What is no object has no entries. -/
inductive MarkersRead : Option Value → List MarkerEntry → List Warning → Prop
  | entries {fields : Fields} {markers : List MarkerEntry} {warnings : List Warning} :
      Sifted (fun (marker, value) => marker? marker value)
        (fun (marker, _) => .malformed .marker marker) fields markers warnings →
      MarkersRead (some (.object fields)) markers warnings
  | nothing {value : Option Value} : (∀ fields, value ≠ some (.object fields)) →
      MarkersRead value [] []

/-- Of the items of an array of diff lines the well-formed ones are kept; any other is called by
its place in the array. What is no array has no items. -/
inductive LinesRead : Option Value → List DiffLine → List Warning → Prop
  | items {items : List Value} {lines : List DiffLine} {warnings : List Warning} :
      Sifted (fun (value, _) => diffLine? value)
        (fun (_, index) => .malformed .diffLine (Nat.repr index)) items.zipIdx lines warnings →
      LinesRead (some (.array items)) lines warnings
  | nothing {value : Option Value} : (∀ items, value ≠ some (.array items)) →
      LinesRead value [] []

/-- Of file summaries those that are objects with a path that says something are kept, and the
warnings of what is inside them follow one another. Any other is left out whole, with one
warning. -/
inductive FilesRead : List Value → List FileDiff → List Warning → Prop
  | nil : FilesRead [] [] []
  | notObject {summary : Value} {summaries : List Value} {files : List FileDiff}
      {warnings : List Warning} :
      (∀ fields, summary ≠ .object fields) → FilesRead summaries files warnings →
      FilesRead (summary :: summaries) files (.summaryNotObject :: warnings)
  | withoutPath {fields : Fields} {summaries : List Value} {files : List FileDiff}
      {warnings : List Warning} :
      (∀ path, Fields.get? fields "path" = some (.string path) → path = "") →
      FilesRead summaries files warnings →
      FilesRead (.object fields :: summaries) files (.summaryWithoutPath :: warnings)
  | keep {fields : Fields} {path : String} {markers : List MarkerEntry} {lines : List DiffLine}
      {markerWarnings lineWarnings : List Warning} {summaries : List Value}
      {files : List FileDiff} {warnings : List Warning} :
      Fields.get? fields "path" = some (.string path) → path ≠ "" →
      MarkersRead (Fields.get? fields "markersMap") markers markerWarnings →
      LinesRead (Fields.get? fields "diffLines") lines lineWarnings →
      FilesRead summaries files warnings →
      FilesRead (.object fields :: summaries) (⟨path, markers, lines⟩ :: files)
        (markerWarnings ++ lineWarnings ++ warnings)

/-! ### They are read so -/

theorem threadsRead_threads (fields : Fields) :
    ThreadsRead fields (threads fields).kept (threads fields).warnings :=
  Reading.sifted_each_ofRecord .thread Prod.fst (fun field => thread? field.1 field.2) fields

theorem markersRead_markers (value : Option Value) :
    MarkersRead value (markers value).kept (markers value).warnings := by
  by_cases hobject : ∃ fields, value = some (.object fields)
  · obtain ⟨fields, rfl⟩ := hobject
    exact .entries (Reading.sifted_each_ofRecord .marker Prod.fst
      (fun field => marker? field.1 field.2) fields)
  · rw [not_exists] at hobject
    rw [markers]
    · exact .nothing hobject
    · exact hobject

theorem linesRead_diffLines (value : Option Value) :
    LinesRead value (diffLines value).kept (diffLines value).warnings := by
  by_cases harray : ∃ items, value = some (.array items)
  · obtain ⟨items, rfl⟩ := harray
    exact .items (Reading.sifted_each_ofRecord .diffLine (fun item => Nat.repr item.2)
      (fun item => diffLine? item.1) items.zipIdx)
  · rw [not_exists] at harray
    rw [diffLines]
    · exact .nothing harray
    · exact harray

theorem path?_eq_some_iff {fields : Fields} {path : String} :
    path? fields = some path ↔ Fields.get? fields "path" = some (.string path) ∧ path ≠ "" := by
  rw [path?, Option.filter_eq_some_iff, decide_eq_true_iff]
  refine and_congr_left fun _ => ?_
  cases Fields.get? fields "path" with
  | none => simp
  | some value => cases value <;> simp [string?]

theorem filesRead_each (summaries : List Value) :
    FilesRead summaries (Reading.each file summaries).kept
      (Reading.each file summaries).warnings := by
  induction summaries with
  | nil => exact .nil
  | cons summary summaries ih =>
    simp only [Reading.each, List.flatMap_cons]
    by_cases hobject : ∃ fields, summary = .object fields
    · obtain ⟨fields, rfl⟩ := hobject
      rw [file]
      cases hpath : path? fields with
      | some path =>
        obtain ⟨hfield, hpath⟩ := path?_eq_some_iff.mp hpath
        exact .keep hfield hpath (markersRead_markers _) (linesRead_diffLines _) ih
      | none =>
        refine .withoutPath (fun path hfield => ?_) ih
        refine Decidable.not_not.mp fun hne => ?_
        rw [path?_eq_some_iff.mpr ⟨hfield, hne⟩] at hpath
        cases hpath
    · rw [not_exists] at hobject
      rw [file]
      · exact .notObject hobject ih
      · exact hobject

end Decode

/-! ### References at markers -/

/-- Where places are looked for, each reference at a marker gives a place or raises a warning. -/
theorem sifted_markerReferences (file : FileDiff) :
    Sifted
      (fun (entry, reference) =>
        (MarkerReference.place? file.path entry reference).map (reference.thread, ·))
      (fun (entry, reference) => .noLine file.path entry.marker reference.thread)
      file.markerReferences file.markerPlaces (placeWarnings [file]) := by
  rw [placeWarnings_singleton]
  refine .of_filter (fun part => ?_) file.markerReferences
  rw [Option.isSome_map, MarkerReference.isSome_place?]

/-- Places and warnings are as many as references. -/
theorem length_markerPlaces_add (files : List FileDiff) :
    (files.flatMap FileDiff.markerPlaces).length + (placeWarnings files).length =
      (files.flatMap fun file => file.markers.flatMap (·.references)).length := by
  induction files with
  | nil => rfl
  | cons file files ih =>
    have hfile := (sifted_markerReferences file).length_add
    have hreferences : file.markerReferences.length =
        (file.markers.flatMap (·.references)).length := by
      simp [FileDiff.markerReferences, List.length_flatMap]
    have hwarnings : placeWarnings (file :: files) =
        placeWarnings [file] ++ placeWarnings files := by
      simp [placeWarnings]
    rw [hwarnings]
    simp only [List.flatMap_cons, List.length_append]
    omega

/-! ### A payload -/

/-- **Nothing is left out of a payload without a warning.** Of threads, marker entries and diff
lines each is kept or warned of once, by its key or its place, and so is each file summary, with
all that is in it. What is kept stands in the order of the payload, and so do the warnings: those
of the threads first, then those of each file, its markers before its diff lines. Where places
are looked for, each reference at a marker gives one or raises a warning. -/
theorem payload?_accounts_for_all {root : Json.Value} {decoded : Decode.Decoded}
    (h : Decode.payload? root = .ok decoded) :
    ∃ body threadFields summaries threadWarnings fileWarnings,
      Decode.HasShape root body threadFields summaries ∧
      Decode.ThreadsRead threadFields decoded.payload.threads threadWarnings ∧
      Decode.FilesRead summaries decoded.payload.files fileWarnings ∧
      decoded.warnings = threadWarnings ++ fileWarnings ∧
      (decoded.payload.files.flatMap FileDiff.markerPlaces).length +
          (placeWarnings decoded.payload.files).length =
        (decoded.payload.files.flatMap fun file => file.markers.flatMap (·.references)).length := by
  obtain ⟨body, threadFields, summaries, hshape, rfl⟩ := Decode.payload?_eq_ok_iff.mp h
  exact ⟨body, threadFields, summaries, _, _, hshape, Decode.threadsRead_threads threadFields,
    Decode.filesRead_each summaries, rfl, length_markerPlaces_add _⟩

/-- A payload in which of everything something is malformed, never the last. -/
def mendedRoot : Json.Value :=
  .object [
    ("diffSummaries", .array [
      .null,
      .object [("path", .string ""), ("markersMap", .object [("R9", .null)])],
      .object [
        ("path", .string "a.rs"),
        ("markersMap", .object [
          ("R1", .object [("ctx", .string "oops")]),
          ("X2", .array [.null, .array [.array [.string "b"]]])]),
        ("diffLines", .array [.bool true, .object [], .string "oops", .array []])]]),
    ("threads", .object [("a", .string "oops"), ("b", .array [])])]

/-- What is read of it. -/
def mendedReading : Decode.Decoded where
  payload := {
    threads := [⟨"b", none, false, []⟩]
    files := [⟨"a.rs", [⟨"X2", none, [⟨"b", none, none, none⟩]⟩],
      [⟨none, none, []⟩, ⟨none, none, []⟩]⟩] }
  warnings := [
    .malformed .thread "a", .summaryNotObject, .summaryWithoutPath, .malformed .marker "R1",
    .malformed .diffLine "0", .malformed .diffLine "2"]

/-- It is accounted for: one thread is kept and one left out, and the one reference at a marker
raises a warning. -/
theorem payload?_accounts_for_all_mendedRoot :
    Decode.payload? mendedRoot = .ok mendedReading ∧
      ∃ threadFields threadWarnings fileWarnings,
        Decode.ThreadsRead threadFields mendedReading.payload.threads threadWarnings ∧
        mendedReading.warnings = threadWarnings ++ fileWarnings ∧
        (mendedReading.payload.files.flatMap FileDiff.markerPlaces).length +
          (placeWarnings mendedReading.payload.files).length = 1 := by
  have hread : Decode.payload? mendedRoot = .ok mendedReading := rfl
  obtain ⟨-, threadFields, -, threadWarnings, fileWarnings, -, hthreads, -, hwarnings, hplaces⟩ :=
    payload?_accounts_for_all hread
  exact ⟨hread, threadFields, threadWarnings, fileWarnings, hthreads, hwarnings, hplaces⟩

end CodeReview
