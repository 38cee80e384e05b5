import CodeReview.Place

/-!
# CodeReview.Proofs.Places.FirstWriter

What a table of places holds after entries were added to it: the places that were there,
and for every other id the first entry that names it. The count of new entries is the
growth of the table.

Each fact is proved for one step and carried over the list of entries by induction, with
the table that is being filled kept general.
-/

namespace CodeReview.PlaceTable

/-! ### One entry -/

/-- One entry adds a place for its id, unless there is one, and changes no other. -/
theorem Growth.getElem?_step (growth : Growth) (entry : ThreadId × Place) (id : ThreadId) :
    (growth.step entry).table[id]? =
      growth.table[id]?.or (if id = entry.1 then some entry.2 else none) := by
  unfold Growth.step
  by_cases hmem : entry.1 ∈ growth.table
  · rw [if_pos hmem]
    by_cases hid : id = entry.1
    · subst hid
      obtain ⟨place, hplace⟩ := Option.isSome_iff_exists.mp
        (Std.ExtTreeMap.mem_iff_isSome_getElem?.mp hmem)
      rw [hplace, Option.some_or]
    · rw [if_neg hid, Option.or_none]
  · rw [if_neg hmem, Std.ExtTreeMap.getElem?_insert]
    simp only [Std.LawfulEqCmp.compare_eq_iff_eq]
    by_cases hid : id = entry.1
    · subst hid
      rw [if_pos rfl, if_pos rfl, Std.ExtTreeMap.getElem?_eq_none hmem, Option.none_or]
    · rw [if_neg (Ne.symm hid), if_neg hid, Option.or_none]

/-- One entry counts exactly if the table grows by it. -/
theorem Growth.size_step (growth : Growth) (entry : ThreadId × Place) :
    (growth.step entry).table.size + growth.added =
      growth.table.size + (growth.step entry).added := by
  unfold Growth.step
  by_cases hmem : entry.1 ∈ growth.table
  · rw [if_pos hmem]
  · have hnew : growth.table.contains entry.1 = false := by
      rw [← Bool.not_eq_true]
      exact fun h => hmem (Std.ExtTreeMap.mem_iff_contains.mpr h)
    rw [if_neg hmem]
    simp only [Std.ExtTreeMap.size_insert, hnew, Bool.false_eq_true, if_false]
    omega

/-! ### A list of entries -/

/-- An entry list is read like a table: by the first entry that names the id. -/
theorem Growth.getElem?_foldl_step (entries : List (ThreadId × Place)) (growth : Growth)
    (id : ThreadId) :
    (entries.foldl Growth.step growth).table[id]? =
      growth.table[id]?.or (entries.lookup id) := by
  induction entries generalizing growth with
  | nil => simp
  | cons entry entries ih =>
    obtain ⟨first, place⟩ := entry
    -- The answer of the table comes first on both sides, and the two entries are left.
    rw [List.foldl_cons, ih, getElem?_step, Option.or_assoc, List.lookup_cons]
    by_cases hid : id = first
    · rw [if_pos hid, beq_iff_eq.mpr hid, Option.some_or]
    · rw [if_neg hid, beq_eq_false_iff_ne.mpr hid, Option.none_or]

theorem Growth.size_foldl_step (entries : List (ThreadId × Place)) (growth : Growth) :
    (entries.foldl Growth.step growth).table.size + growth.added =
      growth.table.size + (entries.foldl Growth.step growth).added := by
  induction entries generalizing growth with
  | nil => rfl
  | cons entry entries ih =>
    have hstep := growth.size_step entry
    have hrest := ih (growth.step entry)
    rw [List.foldl_cons]
    omega

/-- After entries were added, the table answers for the ids it knew as before, and for
every other with the first entry that names it. -/
theorem getElem?_grow (table : PlaceTable) (entries : List (ThreadId × Place)) (id : ThreadId) :
    (grow table entries).table[id]? = table[id]?.or (entries.lookup id) :=
  Growth.getElem?_foldl_step entries ⟨table, 0⟩ id

/-- A list of entries has a place for the threads that it names. -/
theorem isSome_lookup_iff {entries : List (ThreadId × Place)} {id : ThreadId} :
    (entries.lookup id).isSome = true ↔ ∃ place, (id, place) ∈ entries := by
  rw [List.lookup_isSome_iff]
  simp

/-- A table that entries were added to knows the threads it knew and those that they name. -/
theorem mem_grow_iff {table : PlaceTable} {entries : List (ThreadId × Place)} {id : ThreadId} :
    id ∈ (grow table entries).table ↔ id ∈ table ∨ ∃ place, (id, place) ∈ entries := by
  rw [Std.ExtTreeMap.mem_iff_isSome_getElem?, getElem?_grow, Option.isSome_or, Bool.or_eq_true,
    isSome_lookup_iff, ← Std.ExtTreeMap.mem_iff_isSome_getElem?]

/-- The number of new entries is the growth of the table. -/
theorem size_grow (table : PlaceTable) (entries : List (ThreadId × Place)) :
    (grow table entries).table.size = table.size + (grow table entries).added :=
  Growth.size_foldl_step entries ⟨table, 0⟩

end CodeReview.PlaceTable
