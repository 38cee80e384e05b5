import Std.Data.ExtTreeMap
import CodeReview.Anchor

/-!
# CodeReview.Place

Where review threads belong: a table from the ids of threads to places in files.

The table is filled from several sources, of which the earlier ones are the more
exact. So an id that has a place keeps it (`PlaceTable.add`), and within one source
the first place of an id counts.
-/

namespace CodeReview

open Text (LineNumber)

/-- The id of a review thread. An id that a payload writes as a number is the text of
that number. -/
abbrev ThreadId := String

/-- A place in a file. -/
structure Place where
  path : String
  /-- The diff marker the place comes from, if one is known. -/
  marker : Option String
  /-- The line, when the thread is known to speak of a single one. -/
  line : Option LineNumber
  /-- The lines around a single line, or else the lines the thread speaks of. -/
  context : LineRange
deriving DecidableEq, Repr

/-- What a thread at this place speaks of. -/
def Place.anchor (place : Place) : Anchor := .of place.line place.context

/-- The places of threads, ordered by id. -/
abbrev PlaceTable := Std.ExtTreeMap ThreadId Place compare

namespace PlaceTable

/-- A table while entries are added, with the number of those that were new. -/
structure Growth where
  table : PlaceTable
  added : Nat

/-- Adds an entry unless its id has a place. -/
def Growth.step (growth : Growth) (entry : ThreadId × Place) : Growth :=
  if entry.1 ∈ growth.table then growth
  else ⟨growth.table.insert entry.1 entry.2, growth.added + 1⟩

/-- Adds entries in order; an id that has a place keeps it. -/
def grow (table : PlaceTable) (entries : List (ThreadId × Place)) : Growth :=
  entries.foldl Growth.step ⟨table, 0⟩

/-- The table with the entries whose ids had no place. -/
def add (table : PlaceTable) (entries : List (ThreadId × Place)) : PlaceTable :=
  (grow table entries).table

@[simp] theorem grow_nil (table : PlaceTable) : grow table [] = ⟨table, 0⟩ := rfl

end PlaceTable

end CodeReview
