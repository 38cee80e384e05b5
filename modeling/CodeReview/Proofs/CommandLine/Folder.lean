import CodeReview.CommandLine.Folder
import CodeReview.Proofs.Text.Pieces

/-!
# CodeReview.Proofs.CommandLine.Folder

Paths and writing. Every place in a folder has a path from the root that leads to it
(`place?_slashed`).

A path is followed from folder to folder, so where it leads depends only on which folders there
are, and a written file adds none: the folder that it is put into was there, and with it all those
around it. So after writing every path leads where it led (`place?_put`), the text is at the place
of the path and is read back from it (`read?_of_write?`), and all other places keep what is there.
-/

namespace CodeReview.Folder

open Text

variable {folder : Folder} {place other : FilePlace} {path text : String}

/-! ### Folders -/

theorem isFolder_iff :
    folder.isFolder place = true ↔ ∃ inner ∈ folder.innerFolders, place <+: inner := by
  simp [isFolder]

theorem mem_innerFolders {inner : FilePlace} :
    inner ∈ folder.innerFolders ↔
      inner ∈ folder.here :: folder.folders ∨ ∃ file ∈ folder.files, file.1.dropLast = inner := by
  simp [innerFolders, or_assoc]

/-- What a folder is in is a folder. -/
theorem isFolder_mono (hplace : place <+: other) (h : folder.isFolder other = true) :
    folder.isFolder place = true := by
  rw [isFolder_iff] at h ⊢
  obtain ⟨inner, hinner, hother⟩ := h
  exact ⟨inner, hinner, hplace.trans hother⟩

theorem isFolder_here (folder : Folder) : folder.isFolder folder.here = true :=
  isFolder_iff.mpr ⟨folder.here, List.mem_cons_self, List.prefix_refl _⟩

theorem isFolder_start (folder : Folder) (path : String) :
    folder.isFolder (folder.start path) = true := by
  unfold start
  split
  · exact isFolder_mono List.nil_prefix folder.isFolder_here
  · exact folder.isFolder_here

/-- Following names from a folder ends in a folder. -/
theorem isFolder_of_follow? {names : List String} (hplace : folder.isFolder place = true)
    (h : folder.follow? place names = some other) : folder.isFolder other = true := by
  induction names generalizing place with
  | nil =>
    obtain rfl := Option.some.inj h
    exact hplace
  | cons name names ih =>
    rw [follow?] at h
    split at h
    · exact ih hplace h
    · split at h
      · exact ih (isFolder_mono (List.dropLast_prefix place) hplace) h
      · split at h
        · next hinside => exact ih hinside h
        · cases h

/-- The folder that the file of a path is in is there. -/
theorem isFolder_of_place? (h : folder.place? path = some place) :
    folder.isFolder place.dropLast = true := by
  unfold place? at h
  split at h
  · cases h
  · split at h
    · cases h
    · obtain ⟨above, habove, rfl⟩ := Option.map_eq_some_iff.mp h
      rw [List.dropLast_concat]
      exact isFolder_of_follow? (folder.isFolder_start path) habove

/-! ### Paths from the root -/

/-- A name that stands for itself on a path. -/
structure IsName (name : String) : Prop where
  slash_notMem : '/' ∉ name.toList
  here_eq : isHere name = false
  ne_above : name ≠ ".."

/-- Names, each behind a slash: for a place this is its path from the root. -/
def slashed (names : List String) : String := String.join (names.map ("/" ++ ·))

/-- A path consists of the names on it. -/
theorem names_eq_cons_iff {first : String} {rest : List String} :
    names path = first :: rest ↔
      '/' ∉ first.toList ∧ (∀ name ∈ rest, '/' ∉ name.toList) ∧ path = first ++ slashed rest := by
  have hslashed : (slashed rest).toList = (rest.map String.toList).flatMap ('/' :: ·) := by
    simp [slashed, String.toList_join, List.flatMap_map]
  have hnames : names path = first :: rest ↔
      pieces '/' path.toList = first.toList :: rest.map String.toList := by
    constructor
    · intro h
      have htexts := congrArg (List.map String.toList) h
      simpa [names, Function.comp_def] using htexts
    · intro h
      simp [names, h, Function.comp_def]
  rw [hnames, pieces_eq_cons_iff, List.forall_mem_map, ← hslashed, ← String.toList_append,
    String.toList_inj]

theorem names_slashed (h : ∀ name ∈ place, IsName name) : names (slashed place) = "" :: place :=
  names_eq_cons_iff.mpr ⟨by simp, fun name hname => (h name hname).slash_notMem, by simp⟩

theorem start_slashed (folder : Folder) (hne : place ≠ []) :
    folder.start (slashed place) = [] := by
  obtain ⟨name, rest, rfl⟩ := List.exists_cons_of_ne_nil hne
  simp [start, slashed, String.toList_join]

/-- Names of folders are followed one after the other. -/
theorem follow?_of_isFolder {names : List String} (hnames : ∀ name ∈ names, IsName name)
    (h : folder.isFolder (place ++ names) = true) :
    folder.follow? place names = some (place ++ names) := by
  induction names generalizing place with
  | nil => simp [follow?]
  | cons name names ih =>
    simp only [List.mem_cons, forall_eq_or_imp] at hnames
    obtain ⟨hname, hnames⟩ := hnames
    rw [← List.singleton_append, ← List.append_assoc] at h ⊢
    have hinside : folder.isFolder (place ++ [name]) = true :=
      isFolder_mono (List.prefix_append _ _) h
    simp [follow?, hname.here_eq, hname.ne_above, hinside, ih hnames h]

/-- The path from the root to a place in a folder leads there. -/
theorem place?_slashed {above : FilePlace} {name : String}
    (hnames : ∀ inner ∈ above ++ [name], IsName inner) (habove : folder.isFolder above = true)
    (hshort : isShort (slashed (above ++ [name])) = true) :
    folder.place? (slashed (above ++ [name])) = some (above ++ [name]) := by
  have hname : IsName name := hnames name (by simp)
  have hreverse : (names (slashed (above ++ [name]))).reverse = name :: ("" :: above).reverse := by
    simp [names_slashed hnames]
  have hfollow : folder.follow? [] ("" :: above) = some above :=
    follow?_of_isFolder (fun inner hinner => hnames inner (List.mem_append_left _ hinner)) habove
  rw [place?, hreverse]
  simp [hshort, hname.here_eq, hname.ne_above, start_slashed, hfollow]

/-- A path may leave the folder, and may not leave the tree. -/
example : (ofList []).place? "../../dev/./null" = some ["dev", "null"] ∧
    (ofList []).place? "../../../../dev/null" = some ["dev", "null"] := by
  decide +kernel

/-! ### A text at a place -/

theorem mem_innerFolders_put {inner : FilePlace} :
    inner ∈ (folder.put place text).innerFolders ↔
      inner = place.dropLast ∨ inner ∈ folder.innerFolders := by
  have hkept : (folder.put place text).here :: (folder.put place text).folders =
      folder.here :: folder.folders := rfl
  rw [mem_innerFolders, mem_innerFolders, hkept]
  constructor
  · rintro (hstated | ⟨file, hfile, rfl⟩)
    · exact .inr (.inl hstated)
    · rcases List.mem_cons.mp hfile with rfl | hold
      · exact .inl rfl
      · exact .inr (.inr ⟨file, (List.mem_filter.mp hold).1, rfl⟩)
  · rintro (rfl | hstated | ⟨file, hfile, rfl⟩)
    · exact .inr ⟨(place, .text text), List.mem_cons_self, rfl⟩
    · exact .inl hstated
    · refine .inr ?_
      -- The file that was at the place makes way for the new one, which is in the same folder.
      by_cases hplace : file.1 = place
      · exact ⟨(place, .text text), List.mem_cons_self, by rw [hplace]⟩
      · refine ⟨file, List.mem_cons_of_mem _ (List.mem_filter.mpr ⟨hfile, ?_⟩), rfl⟩
        simpa using hplace

theorem lookup_put (folder : Folder) (place : FilePlace) (text : String) (other : FilePlace) :
    (folder.put place text).files.lookup other =
      if other = place then some (.text text) else folder.files.lookup other := by
  split
  · next heq =>
    subst heq
    simp [put]
  · next hne =>
    simp only [put, List.lookup_cons, beq_false_of_ne hne]
    induction folder.files with
    | nil => rfl
    | cons file files ih =>
      obtain ⟨here, content⟩ := file
      by_cases hhere : here = place
      · subst hhere
        simpa [List.lookup_cons, beq_false_of_ne hne] using ih
      · by_cases hother : other = here
        · subst hother
          simp [hhere]
        · simpa [hhere, List.lookup_cons, beq_false_of_ne hother] using ih

section Put

variable (hinside : folder.isFolder place.dropLast = true)

include hinside

/-- A file in a folder that was there makes no new folder. -/
theorem isFolder_put (other : FilePlace) :
    (folder.put place text).isFolder other = folder.isFolder other := by
  rw [Bool.eq_iff_iff, isFolder_iff]
  constructor
  · rintro ⟨inner, hinner, hother⟩
    rcases mem_innerFolders_put.mp hinner with rfl | hold
    · exact isFolder_mono hother hinside
    · exact isFolder_iff.mpr ⟨inner, hold, hother⟩
  · intro h
    obtain ⟨inner, hinner, hother⟩ := isFolder_iff.mp h
    exact ⟨inner, mem_innerFolders_put.mpr (.inr hinner), hother⟩

theorem follow?_put (start : FilePlace) (names : List String) :
    (folder.put place text).follow? start names = folder.follow? start names := by
  induction names generalizing start with
  | nil => rfl
  | cons name names ih => rw [follow?, follow?, isFolder_put hinside, ih, ih, ih]

/-- After a file is put into a folder that was there, every path leads where it led. -/
theorem place?_put (path : String) :
    (folder.put place text).place? path = folder.place? path := by
  unfold place?
  simp only [follow?_put hinside]
  rfl

/-- The text is at the place where it was put. -/
theorem content?_put_self (hfile : folder.isFolder place = false) :
    (folder.put place text).content? place = some (.text text) := by
  simp [content?, isFolder_put hinside, hfile, lookup_put]

end Put

/-! ### Writing -/

/-- All that writing does: it needs a place for the text, and then a device stays as it is. -/
theorem write?_eq_some_iff {written : Folder} :
    folder.write? path text = some written ↔
      ∃ place, folder.place? path = some place ∧ folder.isFolder place = false ∧
        place ∉ folder.unwritable ∧
        written = if (folder.device? path).isSome then folder else folder.put place text := by
  unfold write?
  rw [Option.bind_eq_some_iff]
  refine exists_congr fun place => and_congr_right fun _ => ?_
  cases folder.isFolder place with
  | true => simp
  | false =>
    by_cases hclosed : place ∈ folder.unwritable
    · simp [hclosed]
    · cases (folder.device? path).isSome with
      | true => simp [hclosed, eq_comm]
      | false => simp [hclosed, eq_comm]

/-- A text that was written to a file is read back, by any path that leads there. -/
theorem read?_of_write? {written : Folder} (h : folder.write? path text = some written)
    (hdevice : folder.device? path = none) {back : String}
    (hsame : folder.place? back = folder.place? path)
    (hreadable : ∀ place ∈ folder.place? path, place ∉ folder.unreadable) (input : String) :
    written.read? back input = some text := by
  obtain ⟨place, hplace, hfile, -, rfl⟩ := write?_eq_some_iff.mp h
  have hinside := isFolder_of_place? hplace
  have hread : place ∉ (folder.put place text).unreadable := hreadable place hplace
  simp [hdevice, read?, place?_put hinside, hsame, hplace, textAt?, hread,
    content?_put_self hinside hfile]

end CodeReview.Folder
