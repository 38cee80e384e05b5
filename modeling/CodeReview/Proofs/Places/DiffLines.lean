import CodeReview.Payload.Location
import CodeReview.Proofs.Text.Numeral
import Mathlib.Data.List.Forall2

/-!
# CodeReview.Proofs.Places.DiffLines

The places that references at diff lines give. Four numbers may tell where such a reference is,
and the first of them that is given and is not zero does (`LineReference.place?_eq`); a reference
without any is left out, and no other one is. So a place at a diff line is never at line zero,
and what it says of its line agrees: the line, the range around it, the anchor and the marker,
which is written for the place and reads back.
-/

namespace CodeReview

open Text (LineNumber)

/-! ### Numbers -/

/-- A number that is not given, or is zero. -/
def IsAbsent (number : Option LineNumber) : Prop := number = none ∨ number = some 0

instance (number : Option LineNumber) : Decidable (IsAbsent number) :=
  inferInstanceAs (Decidable (_ ∨ _))

theorem positive_eq_none_iff {number : Option LineNumber} :
    positive number = none ↔ IsAbsent number := by
  unfold IsAbsent
  cases number with
  | none => simp
  | some n => simp [positive, Option.filter_some]

theorem one_le_of_positive {number : Option LineNumber} {n : LineNumber}
    (h : positive number = some n) : 1 ≤ n := by
  have hne : n.toNat ≠ 0 := fun hzero =>
    (positive_eq_some_iff.mp h).2 (UInt32.toNat_inj.mp hzero)
  rw [UInt32.le_iff_toNat_le]
  exact Nat.one_le_iff_ne_zero.mpr hne

namespace LineReference

/-- The numbers that may tell where a reference at a diff line is, the most exact one first. -/
def numbers (line : DiffLine) (reference : LineReference) : List (Option LineNumber) :=
  [reference.startLine, reference.line, line.newLine, line.oldLine]

/-- One of the numbers is given and is not zero. -/
def isNumbered (line : DiffLine) (reference : LineReference) : Bool :=
  (reference.numbers line).any fun number => ¬ IsAbsent number

/-- A reference starts at the first of its numbers that is given and is not zero. -/
theorem place?_eq (path : String) (line : DiffLine) (reference : LineReference) :
    reference.place? path line =
      ((reference.numbers line).findSome? positive).map fun first =>
        { path
          marker := some (Marker.ofLine (line.number.getD first))
          line := some first
          context := ⟨first, (positive reference.endLine).getD first⟩ } := by
  unfold place?
  congr 1
  simp only [numbers, DiffLine.number, List.findSome?_cons, List.findSome?_nil]
  cases positive reference.startLine <;> cases positive reference.line <;>
    cases positive line.newLine <;> cases positive line.oldLine <;> rfl

theorem place?_eq_none_iff {path : String} {line : DiffLine} {reference : LineReference} :
    reference.place? path line = none ↔ ∀ number ∈ reference.numbers line, IsAbsent number := by
  rw [place?_eq, Option.map_eq_none_iff, List.findSome?_eq_none_iff]
  simp only [positive_eq_none_iff]

theorem isSome_place? (path : String) (line : DiffLine) (reference : LineReference) :
    (reference.place? path line).isSome = reference.isNumbered line := by
  have hsome (number : Option LineNumber) :
      (positive number).isSome = true ↔ ¬ IsAbsent number := by
    rw [Option.isSome_iff_ne_none, Ne, positive_eq_none_iff]
  rw [place?_eq, Option.isSome_map, isNumbered, Bool.eq_iff_iff, List.findSome?_isSome_iff,
    List.any_eq_true]
  simp only [hsome, decide_eq_true_eq]

end LineReference

/-! ### One place -/

/-- The place is at the given diff line of the given file, and agrees with itself. Its marker names
the number of the diff line, that of the new side before that of the old side; if neither is there,
it names the line of the place. -/
structure Place.IsAtDiffLine (place : Place) (path : String) (line : DiffLine) : Prop where
  path_eq : place.path = path
  line_eq : place.line = some place.context.first
  one_le_first : 1 ≤ place.context.first
  one_le_last : 1 ≤ place.context.last
  anchor_eq : place.anchor = .line place.context.first
  reads_new : ∀ n, n ≠ 0 → line.newLine = some n →
    place.marker.bind Marker.line? = some n
  reads_old : ∀ n, n ≠ 0 → IsAbsent line.newLine → line.oldLine = some n →
    place.marker.bind Marker.line? = some n
  reads_first : IsAbsent line.newLine → IsAbsent line.oldLine →
    place.marker.bind Marker.line? = some place.context.first

theorem LineReference.isAtDiffLine_of_place? {path : String} {line : DiffLine}
    {reference : LineReference} {place : Place} (h : reference.place? path line = some place) :
    place.IsAtDiffLine path line := by
  rw [place?_eq] at h
  obtain ⟨first, hfirst, rfl⟩ := Option.map_eq_some_iff.mp h
  obtain ⟨number, -, hnumber⟩ := List.exists_of_findSome?_eq_some hfirst
  have hone := one_le_of_positive hnumber
  have hreads : (some (Marker.ofLine (line.number.getD first))).bind Marker.line? =
      some (line.number.getD first) := Marker.line?_ofLine _
  refine ⟨rfl, rfl, hone, ?_, rfl, fun n hn hnew => ?_, fun n hn hnew hold => ?_,
    fun hnew hold => ?_⟩
  · cases hlast : positive reference.endLine with
    | none => exact hone
    | some last => exact one_le_of_positive hlast
  · rw [hreads, DiffLine.number, positive_eq_some_iff.mpr ⟨hnew, hn⟩, Option.some_or,
      Option.getD_some]
  · rw [hreads, DiffLine.number, positive_eq_none_iff.mpr hnew,
      positive_eq_some_iff.mpr ⟨hold, hn⟩, Option.none_or, Option.getD_some]
  · rw [hreads, DiffLine.number, positive_eq_none_iff.mpr hnew, positive_eq_none_iff.mpr hold,
      Option.none_or, Option.getD_none]

/-! ### The places of a file -/

/-- The references at the diff lines of a file, in order, each with its line. -/
def FileDiff.lineReferences (file : FileDiff) : List (DiffLine × LineReference) :=
  file.lines.flatMap fun line => line.references.map (line, ·)

theorem linePlaces_eq_filterMap_lineReferences (file : FileDiff) :
    file.linePlaces = file.lineReferences.filterMap fun (line, reference) =>
      (reference.place? file.path line).map (reference.thread, ·) := by
  simp only [FileDiff.linePlaces, FileDiff.lineReferences, List.filterMap_flatMap,
    List.filterMap_map]
  rfl

/-- What is made of the elements of a list stands in order beside those that something is made
of. -/
theorem forall₂_filterMap {α β : Type} {make : α → Option β} {related : α → β → Prop}
    (h : ∀ {a b}, make a = some b → related a b) (given : List α) :
    List.Forall₂ related (given.filter fun a => (make a).isSome) (given.filterMap make) := by
  induction given with
  | nil => exact .nil
  | cons a given ih =>
    cases hmake : make a with
    | none =>
      rw [List.filterMap_cons_none hmake, List.filter_cons_of_neg (by simp [hmake])]
      exact ih
    | some b =>
      rw [List.filterMap_cons_some hmake, List.filter_cons_of_pos (by simp [hmake])]
      exact .cons (h hmake) ih

/-- **Places at diff lines.** The references at the diff lines of a file that have a number give
one place each, in order, and the others give none. Each place is in the file, at a line that is
not zero, and agrees with itself and with its diff line. -/
theorem linePlaces_agree (file : FileDiff) :
    List.Forall₂
        (fun (line, reference) (thread, place) =>
          thread = reference.thread ∧ place.IsAtDiffLine file.path line)
        (file.lineReferences.filter fun (line, reference) => reference.isNumbered line)
        file.linePlaces ∧
      ∀ (line : DiffLine) (reference : LineReference),
        reference.place? file.path line = none ↔
          ∀ number ∈ reference.numbers line, IsAbsent number := by
  refine ⟨?_, fun _ _ => LineReference.place?_eq_none_iff⟩
  have hused (pair : DiffLine × LineReference) : pair.2.isNumbered pair.1 =
      ((pair.2.place? file.path pair.1).map (pair.2.thread, ·)).isSome := by
    rw [Option.isSome_map, LineReference.isSome_place?]
  rw [linePlaces_eq_filterMap_lineReferences, funext hused]
  refine forall₂_filterMap ?_ file.lineReferences
  rintro ⟨line, reference⟩ ⟨thread, place⟩ hmake
  obtain ⟨_, hplace, hpair⟩ := Option.map_eq_some_iff.mp hmake
  obtain ⟨rfl, rfl⟩ := Prod.mk.inj hpair
  exact ⟨rfl, LineReference.isAtDiffLine_of_place? hplace⟩

/-- Zeros are passed over, and the number of the new side comes first. -/
example : FileDiff.linePlaces ⟨"a.rs", [],
    [⟨some 12, some 3, [⟨"1", some 0, some 7, some 9⟩, ⟨"2", none, none, some 0⟩]⟩,
      ⟨none, some 0, [⟨"3", some 0, none, some 9⟩, ⟨"4", some 5, none, none⟩]⟩]⟩ =
    [("1", ⟨"a.rs", some "L12", some 7, ⟨7, 9⟩⟩), ("2", ⟨"a.rs", some "L12", some 12, ⟨12, 12⟩⟩),
      ("4", ⟨"a.rs", some "L5", some 5, ⟨5, 5⟩⟩)] := by
  decide

end CodeReview
