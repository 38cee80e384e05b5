import CodeReview.Proofs.Places.Precedence

/-!
# CodeReview.Proofs.Places.Locality

An entry places no thread but those it refers to. For every other thread it may as well be
absent: taking it out neither moves the thread nor makes it lose its place, wherever the entry
stands.
-/

namespace CodeReview

variable {id : ThreadId}

/-- The threads that a marker entry refers to. -/
def MarkerEntry.threads (entry : MarkerEntry) : List ThreadId := entry.references.map (·.thread)

/-- The threads that a diff line refers to. -/
def DiffLine.threads (line : DiffLine) : List ThreadId := line.references.map (·.thread)

theorem lookup_eq_none {entries : List (ThreadId × Place)} (h : ∀ place, (id, place) ∉ entries) :
    entries.lookup id = none := by
  rw [← Option.not_isSome_iff_eq_none, PlaceTable.isSome_lookup_iff, not_exists]
  exact h

/-- A thread is placed alike if one file says something else, but the same of the thread. -/
theorem getElem?_placesOf_congr {file other : FileDiff}
    (hmarkers : file.markerPlaces.lookup id = other.markerPlaces.lookup id)
    (hlines : file.linePlaces.lookup id = other.linePlaces.lookup id)
    (front back : List FileDiff) :
    (placesOf (front ++ file :: back))[id]? = (placesOf (front ++ other :: back))[id]? := by
  simp only [getElem?_placesOf, List.flatMap_append, List.flatMap_cons, List.lookup_append,
    hmarkers, hlines]

/-! ### Marker entries -/

theorem markerPlaces_append (path : String) (markers more : List MarkerEntry)
    (lines : List DiffLine) :
    FileDiff.markerPlaces ⟨path, markers ++ more, lines⟩ =
      FileDiff.markerPlaces ⟨path, markers, lines⟩ ++
        FileDiff.markerPlaces ⟨path, more, lines⟩ := by
  simp only [FileDiff.markerPlaces, FileDiff.markerReferences, List.flatMap_append,
    List.filterMap_append]

/-- The markers of a file place no thread but those that their entries refer to. -/
theorem mem_threads_of_mem_markerPlaces {file : FileDiff} {place : Place}
    (h : (id, place) ∈ file.markerPlaces) : ∃ entry ∈ file.markers, id ∈ entry.threads := by
  obtain ⟨⟨entry, reference⟩, hlisted, hgiven⟩ := List.mem_filterMap.mp h
  obtain ⟨_, -, hpair⟩ := Option.map_eq_some_iff.mp hgiven
  obtain ⟨rfl, -⟩ := Prod.mk.inj hpair
  obtain ⟨_, hentry, hlisted⟩ := List.mem_flatMap.mp hlisted
  obtain ⟨_, hreference, hsame⟩ := List.mem_map.mp hlisted
  obtain ⟨rfl, rfl⟩ := Prod.mk.inj hsame
  exact ⟨_, hentry, List.mem_map_of_mem hreference⟩

theorem lookup_markerPlaces_singleton (path : String) {entry : MarkerEntry}
    (lines : List DiffLine) (h : id ∉ entry.threads) :
    (FileDiff.markerPlaces ⟨path, [entry], lines⟩).lookup id = none := by
  refine lookup_eq_none fun place hmem => ?_
  obtain ⟨_, hentry, hid⟩ := mem_threads_of_mem_markerPlaces hmem
  obtain rfl := List.mem_singleton.mp hentry
  exact h hid

/-- A marker entry that does not refer to a thread is nothing to it. -/
theorem getElem?_placesOf_marker {entry : Option MarkerEntry}
    (h : ∀ given ∈ entry, id ∉ given.threads) (front back : List FileDiff) (path : String)
    (before after : List MarkerEntry) (lines : List DiffLine) :
    (placesOf (front ++ ⟨path, before ++ entry.toList ++ after, lines⟩ :: back))[id]? =
      (placesOf (front ++ ⟨path, before ++ after, lines⟩ :: back))[id]? := by
  cases entry with
  | none => rw [Option.toList_none, List.append_nil]
  | some entry =>
    -- The places of the entry stand between those of the others, and none of them is asked for.
    refine getElem?_placesOf_congr ?_ ?_ front back
    · rw [Option.toList_some, markerPlaces_append, markerPlaces_append, markerPlaces_append,
        List.lookup_append, List.lookup_append, List.lookup_append,
        lookup_markerPlaces_singleton path lines (h entry rfl), Option.or_none]
    · rfl

/-! ### Diff lines -/

/-- A diff line places no thread but those that it refers to. -/
theorem mem_threads_of_mem_places {path : String} {line : DiffLine} {place : Place}
    (h : (id, place) ∈ line.places path) : id ∈ line.threads := by
  obtain ⟨reference, hreference, hgiven⟩ := List.mem_filterMap.mp h
  obtain ⟨_, -, hpair⟩ := Option.map_eq_some_iff.mp hgiven
  obtain ⟨rfl, -⟩ := Prod.mk.inj hpair
  exact List.mem_map_of_mem hreference

theorem lookup_places (path : String) {line : DiffLine} (h : id ∉ line.threads) :
    (line.places path).lookup id = none :=
  lookup_eq_none fun _ hmem => h (mem_threads_of_mem_places hmem)

/-- A diff line that does not refer to a thread is nothing to it. -/
theorem getElem?_placesOf_line {line : Option DiffLine}
    (h : ∀ given ∈ line, id ∉ given.threads) (front back : List FileDiff) (path : String)
    (markers : List MarkerEntry) (before after : List DiffLine) :
    (placesOf (front ++ ⟨path, markers, before ++ line.toList ++ after⟩ :: back))[id]? =
      (placesOf (front ++ ⟨path, markers, before ++ after⟩ :: back))[id]? := by
  cases line with
  | none => rw [Option.toList_none, List.append_nil]
  | some line =>
    refine getElem?_placesOf_congr ?_ ?_ front back
    · rfl
    · simp only [FileDiff.linePlaces, Option.toList_some, List.flatMap_append,
        List.flatMap_singleton, List.lookup_append, lookup_places path (h line rfl),
        Option.or_none]

end CodeReview
