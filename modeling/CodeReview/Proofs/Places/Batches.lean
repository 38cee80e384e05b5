import CodeReview.Proofs.Places.Precedence
import Mathlib.Algebra.GroupWithZero.Nat

/-!
# CodeReview.Proofs.Places.Batches

Entries may be added to a table of places in one list or in several, one after another: the
table is the same, and so is the number of new entries. A list that was added adds nothing
again.

Counting does not look at what was counted before (`Growth.foldl_step`), so the growth of a
table by two lists is made of two growths (`grow_append`), and that by any number of lists
follows by induction on them.
-/

namespace CodeReview.PlaceTable

/-! ### Two lists of entries -/

/-- What was counted before an entry is added to what it counts. -/
theorem Growth.step_eq (growth : Growth) (entry : ThreadId × Place) :
    growth.step entry =
      ⟨(step ⟨growth.table, 0⟩ entry).table,
        growth.added + (step ⟨growth.table, 0⟩ entry).added⟩ := by
  unfold step
  by_cases hmem : entry.1 ∈ growth.table
  · simp only [if_pos hmem, Nat.add_zero]
  · simp only [if_neg hmem, Nat.zero_add]

theorem Growth.foldl_step (entries : List (ThreadId × Place)) (growth : Growth) :
    entries.foldl step growth =
      ⟨(grow growth.table entries).table, growth.added + (grow growth.table entries).added⟩ := by
  induction entries generalizing growth with
  | nil => rfl
  | cons entry entries ih =>
    -- Both sides take the first entry, one with what was counted before and one without it.
    rw [grow, List.foldl_cons, List.foldl_cons, ih, ih (step ⟨growth.table, 0⟩ entry),
      step_eq growth, Nat.add_assoc]

/-- Two lists of entries grow a table like one behind the other. -/
theorem grow_append (table : PlaceTable) (entries more : List (ThreadId × Place)) :
    grow table (entries ++ more) =
      ⟨(grow (grow table entries).table more).table,
        (grow table entries).added + (grow (grow table entries).table more).added⟩ := by
  rw [grow, List.foldl_append, Growth.foldl_step more]
  rfl

/-! ### Entries of known threads -/

/-- Entries whose threads all have places are nothing to the table. -/
theorem grow_of_forall_mem {table : PlaceTable} {entries : List (ThreadId × Place)}
    (h : ∀ entry ∈ entries, entry.1 ∈ table) : grow table entries = ⟨table, 0⟩ := by
  induction entries with
  | nil => rfl
  | cons entry entries ih =>
    obtain ⟨hentry, hentries⟩ := List.forall_mem_cons.mp h
    have hstep : Growth.step ⟨table, 0⟩ entry = ⟨table, 0⟩ := if_pos hentry
    rw [grow, List.foldl_cons, hstep]
    exact ih hentries

/-! ### Any number of lists -/

/-- Adds lists of entries one after another. The numbers tell for each list how many of its
entries were new. -/
def growEach (table : PlaceTable) : List (List (ThreadId × Place)) → PlaceTable × List Nat
  | [] => (table, [])
  | batch :: batches =>
    let growth := grow table batch
    let rest := growEach growth.table batches
    (rest.1, growth.added :: rest.2)

/-- The table and the numbers that lists of entries lead to are those of all entries in one
list. -/
theorem grow_flatten (table : PlaceTable) (batches : List (List (ThreadId × Place))) :
    grow table batches.flatten =
      ⟨(growEach table batches).1, (growEach table batches).2.sum⟩ := by
  induction batches generalizing table with
  | nil => rfl
  | cons batch batches ih =>
    rw [List.flatten_cons, grow_append, ih]
    rfl

/-- **How entries are batched does not matter.** Lists of entries that are added one after another
lead to the table that all entries in one list lead to, and their numbers of new entries make up
that of the one list, by which the table grows. A thread that had a place keeps it, every other has
the first place that an entry gives it, and none of the lists adds anything again. -/
theorem growEach_eq_grow_flatten (table : PlaceTable)
    (batches : List (List (ThreadId × Place))) :
    (growEach table batches).1 = (grow table batches.flatten).table ∧
      (growEach table batches).2.sum = (grow table batches.flatten).added ∧
      (grow table batches.flatten).table.size =
        table.size + (grow table batches.flatten).added ∧
      (∀ (id : ThreadId) (place : Place), table[id]? = some place →
        (grow table batches.flatten).table[id]? = some place) ∧
      (∀ id, id ∉ table →
        (grow table batches.flatten).table[id]? = batches.flatten.lookup id) ∧
      ∀ batch ∈ batches, grow (grow table batches.flatten).table batch =
        ⟨(grow table batches.flatten).table, 0⟩ := by
  have hflatten := grow_flatten table batches
  refine ⟨?_, ?_, size_grow table batches.flatten, ?_, ?_, ?_⟩
  · rw [hflatten]
  · rw [hflatten]
  · intro id place hplace
    rw [getElem?_grow, hplace, Option.some_or]
  · intro id hid
    rw [getElem?_grow, Std.ExtTreeMap.getElem?_eq_none hid, Option.none_or]
  · intro batch hbatch
    refine grow_of_forall_mem fun entry hentry => mem_grow_iff.mpr (.inr ?_)
    exact ⟨entry.2, List.mem_flatten_of_mem hbatch hentry⟩

/-- A place of a single line. -/
def singlePlace (line : Text.LineNumber) : Place := ⟨"a.rs", none, some line, .single line⟩

/-- A table that knows one thread. -/
def startingTable : PlaceTable := (∅ : PlaceTable).insert "known" (singlePlace 1)

/-- Lists that name the known thread, and name another one twice and in both lists. -/
def repeatedBatches : List (List (ThreadId × Place)) :=
  [[("known", singlePlace 2), ("new", singlePlace 3), ("new", singlePlace 4)],
    [("new", singlePlace 5), ("later", singlePlace 6)]]

/-- The known thread stays, the others have their first places, and the second list adds nothing
again. -/
theorem growEach_eq_grow_flatten_repeatedBatches :
    (startingTable["known"]? = some (singlePlace 1) ∧
        (grow startingTable repeatedBatches.flatten).table["known"]? = some (singlePlace 1)) ∧
      ("new" ∉ startingTable ∧
        (grow startingTable repeatedBatches.flatten).table["new"]? = some (singlePlace 3)) ∧
      ∃ batch ∈ repeatedBatches, batch.length = 2 ∧
        grow (grow startingTable repeatedBatches.flatten).table batch =
          ⟨(grow startingTable repeatedBatches.flatten).table, 0⟩ := by
  obtain ⟨-, -, -, hkept, hfirst, hagain⟩ :=
    growEach_eq_grow_flatten startingTable repeatedBatches
  have hknown : startingTable["known"]? = some (singlePlace 1) :=
    Std.ExtTreeMap.getElem?_insert_self
  have hnew : "new" ∉ startingTable := by decide
  refine ⟨⟨hknown, hkept _ _ hknown⟩, ⟨hnew, (hfirst _ hnew).trans (by decide)⟩, ?_⟩
  exact ⟨_, List.mem_cons_of_mem _ List.mem_cons_self, rfl,
    hagain _ (List.mem_cons_of_mem _ List.mem_cons_self)⟩

/-! ### Files one by one -/

/-- The files of a payload may be read one by one: first the markers of each, then the diff lines
of each. -/
theorem placesOf_eq_growEach (files : List FileDiff) :
    placesOf files =
      (growEach ∅ (files.map FileDiff.markerPlaces ++ files.map FileDiff.linePlaces)).1 := by
  have hflatten := grow_flatten ∅
    (files.map FileDiff.markerPlaces ++ files.map FileDiff.linePlaces)
  rw [List.flatten_append, ← List.flatMap_def, ← List.flatMap_def, grow_append] at hflatten
  exact congrArg Growth.table hflatten

end CodeReview.PlaceTable
