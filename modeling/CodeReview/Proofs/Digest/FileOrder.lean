import CodeReview.Digest
import CodeReview.Proofs.Places.Locality

/-!
# CodeReview.Proofs.Digest.FileOrder

When the order of files does not matter. Of the references to a thread the first one counts, so
the order of files decides only about threads to which several files refer. If there are none
(`FilesApart`), the files of a payload may stand in any order, although each of them may refer to
a thread many times, at markers and at diff lines.

A thread is looked up in the entries of one file after the other. At most one of them has an
answer, and a permutation of the files does not change which.
-/

namespace CodeReview

/-! ### The threads of a file -/

/-- The threads that a file refers to, at markers and at diff lines. -/
def FileDiff.threads (file : FileDiff) : List ThreadId :=
  file.markers.flatMap MarkerEntry.threads ++ file.lines.flatMap DiffLine.threads

/-- No two files refer to one thread. -/
def FilesApart (files : List FileDiff) : Prop :=
  files.Pairwise fun file other => ∀ id ∈ file.threads, id ∉ other.threads

instance (files : List FileDiff) : Decidable (FilesApart files) :=
  inferInstanceAs (Decidable (List.Pairwise _ files))

section

variable {id : ThreadId}

theorem FileDiff.lookup_markerPlaces_eq_none {file : FileDiff} (h : id ∉ file.threads) :
    file.markerPlaces.lookup id = none := by
  refine lookup_eq_none fun place hmem => h (List.mem_append_left _ ?_)
  exact List.mem_flatMap.mpr (mem_threads_of_mem_markerPlaces hmem)

theorem FileDiff.lookup_linePlaces_eq_none {file : FileDiff} (h : id ∉ file.threads) :
    file.linePlaces.lookup id = none := by
  refine lookup_eq_none fun place hmem => h (List.mem_append_right _ ?_)
  obtain ⟨line, hline, hplace⟩ := List.mem_flatMap.mp hmem
  exact List.mem_flatMap.mpr ⟨line, hline, mem_threads_of_mem_places hplace⟩

/-- Only one of the files answers for a thread. -/
theorem FilesApart.pairwise_lookup {files : List FileDiff} (h : FilesApart files)
    {entries : FileDiff → List (ThreadId × Place)}
    (hentries : ∀ file : FileDiff, id ∉ file.threads → (entries file).lookup id = none) :
    files.Pairwise fun file other =>
      (entries file).lookup id = none ∨ (entries other).lookup id = none := by
  refine h.imp fun {file other} hapart => ?_
  by_cases hid : id ∈ file.threads
  · exact .inr (hentries other (hapart id hid))
  · exact .inl (hentries file hid)

/-! ### Places -/

/-- Files of which only one answers may be asked in any order. -/
theorem lookup_flatMap_of_perm {entries : FileDiff → List (ThreadId × Place)}
    {files others : List FileDiff} (hperm : files.Perm others)
    (hone : files.Pairwise fun file other =>
      (entries file).lookup id = none ∨ (entries other).lookup id = none) :
    (files.flatMap entries).lookup id = (others.flatMap entries).lookup id := by
  induction hperm with
  | nil => rfl
  | cons file _ ih =>
    rw [List.flatMap_cons, List.flatMap_cons, List.lookup_append, List.lookup_append,
      ih hone.of_cons]
  | swap file other files =>
    have hpair := List.rel_of_pairwise_cons hone List.mem_cons_self
    simp only [List.flatMap_cons, List.lookup_append, ← Option.or_assoc]
    rcases hpair with hnone | hnone <;> simp [hnone]
  | trans hfirst _ ih ih' => exact (ih hone).trans (ih' (hfirst.pairwise hone Or.symm))

end

/-- The places of the threads do not depend on the order of the files. -/
theorem placesOf_of_perm {files others : List FileDiff} (hapart : FilesApart files)
    (hperm : files.Perm others) : placesOf files = placesOf others := by
  refine Std.ExtTreeMap.ext_getElem? fun id => ?_
  have hmarkers := hapart.pairwise_lookup fun file (hid : id ∉ file.threads) =>
    file.lookup_markerPlaces_eq_none hid
  have hlines := hapart.pairwise_lookup fun file (hid : id ∉ file.threads) =>
    file.lookup_linePlaces_eq_none hid
  rw [getElem?_placesOf, getElem?_placesOf, lookup_flatMap_of_perm hperm hmarkers,
    lookup_flatMap_of_perm hperm hlines]

/-! ### Reports -/

/-- **The order of the files of a payload does not matter when they do not compete.** If no two of
them refer to one thread, the same files in another order put every thread in the same place, and
make the same report with the same account of the threads. -/
theorem Digest.ofPayload_of_perm_files {threads : List Thread} {files others : List FileDiff}
    (hapart : FilesApart files) (hperm : files.Perm others) :
    placesOf others = placesOf files ∧
      ofPayload ⟨threads, others⟩ = ofPayload ⟨threads, files⟩ := by
  have hplaces := placesOf_of_perm hapart hperm
  refine ⟨hplaces.symm, ?_⟩
  have hcollect : Payload.collect ⟨threads, others⟩ = Payload.collect ⟨threads, files⟩ := by
    rw [Payload.collect, Payload.collect, hplaces]
  rw [ofPayload, ofPayload, ofSource, ofSource, Source.collect, Source.collect, hcollect]
  rfl

/-- Two files with a thread each, and one without. To one of the threads its file refers at two
markers and at a diff line. -/
def apartFiles : List FileDiff :=
  [⟨"b.rs",
      [⟨"R9", none, [⟨"1", none, none, none⟩]⟩, ⟨"R4", none, [⟨"1", some 2, some 3, none⟩]⟩],
      [⟨some 7, none, [⟨"1", none, none, none⟩]⟩]⟩,
    ⟨"a.rs", [], [⟨none, some 5, [⟨"2", none, none, none⟩]⟩]⟩,
    ⟨"c.rs", [], []⟩]

/-- A comment in each of the two threads. -/
def apartThreads : List Thread :=
  [⟨"1", none, false, [⟨some "octo", some "first", none, none⟩]⟩,
    ⟨"2", none, false, [⟨none, some "second", none, none⟩]⟩]

/-- They may stand the other way round. -/
theorem Digest.ofPayload_of_perm_files_apartFiles :
    FilesApart apartFiles ∧ apartFiles.Perm apartFiles.reverse ∧
      placesOf apartFiles.reverse = placesOf apartFiles ∧
      ofPayload ⟨apartThreads, apartFiles.reverse⟩ = ofPayload ⟨apartThreads, apartFiles⟩ := by
  have hapart : FilesApart apartFiles := by decide
  have hperm : apartFiles.Perm apartFiles.reverse := apartFiles.reverse_perm.symm
  exact ⟨hapart, hperm, ofPayload_of_perm_files hapart hperm⟩

end CodeReview
