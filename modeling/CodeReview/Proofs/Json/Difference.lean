import CodeReview.Json.Value

/-!
# CodeReview.Proofs.Json.Difference

Values that are equal except at one place (`Value.DifferAt`). Such a value is read alike up to
the place: beside the way to it the two hold the same, and on the way they differ in one field
or one item.
-/

namespace CodeReview.Json

/-- One step down into a value. -/
inductive Step
  | field (key : String)
  | item (index : Nat)
deriving DecidableEq, Repr

/-- The values are equal, keys and order included, except that at the end of a path the first
holds `old` and the second `new`. -/
inductive DifferAt (old new : Value) : List Step → Value → Value → Prop
  | here : DifferAt old new [] old new
  | field {before after : Fields} {key : String} {path : List Step} {value other : Value} :
      key ∉ before.map Prod.fst → DifferAt old new path value other →
      DifferAt old new (.field key :: path) (.object (before ++ (key, value) :: after))
        (.object (before ++ (key, other) :: after))
  | item {before after : List Value} {index : Nat} {path : List Step} {value other : Value} :
      before.length = index → DifferAt old new path value other →
      DifferAt old new (.item index :: path) (.array (before ++ value :: after))
        (.array (before ++ other :: after))

namespace Fields

variable {before after : Fields} {key name : String} {value other : Value}

theorem get?_append_self (h : key ∉ before.map Prod.fst) :
    get? (before ++ (key, value) :: after) key = some value := by
  -- The key does not come up before, so the look-up gets as far as the field.
  have hbefore : before.lookup key = none := by
    rw [List.lookup_eq_none_iff]
    intro field hfield
    rw [bne_iff_ne]
    rintro rfl
    exact h (List.mem_map_of_mem hfield)
  rw [get?, List.lookup_append, hbefore, Option.none_or, List.lookup_cons_self]

theorem get?_append_of_ne (h : name ≠ key) :
    get? (before ++ (key, value) :: after) name = get? (before ++ (key, other) :: after) name := by
  have hname : (name == key) = false := beq_false_of_ne h
  rw [get?, get?, List.lookup_append, List.lookup_append, List.lookup_cons, List.lookup_cons,
    hname]

end Fields

namespace DifferAt

variable {old new value other : Value} {key : String} {path : List Step}

theorem ne_null (h : DifferAt old new path value other) (hold : old ≠ .null) (hnew : new ≠ .null) :
    value ≠ .null ∧ other ≠ .null := by
  cases h with
  | here => exact ⟨hold, hnew⟩
  | field => exact ⟨Value.noConfusion, Value.noConfusion⟩
  | item => exact ⟨Value.noConfusion, Value.noConfusion⟩

theorem isObject (h : DifferAt old new (.field key :: path) value other) :
    ∃ fields others, value = .object fields ∧ other = .object others := by
  cases h with
  | field hnew hrest => exact ⟨_, _, rfl, rfl⟩

theorem isArray {index : Nat} (h : DifferAt old new (.item index :: path) value other) :
    ∃ items others, value = .array items ∧ other = .array others := by
  cases h with
  | item hindex hrest => exact ⟨_, _, rfl, rfl⟩

variable {fields others : Fields}

theorem get?_self (h : DifferAt old new (.field key :: path) (.object fields) (.object others)) :
    ∃ value other, Fields.get? fields key = some value ∧ Fields.get? others key = some other ∧
      DifferAt old new path value other := by
  cases h with
  | field hnew hrest =>
    exact ⟨_, _, Fields.get?_append_self hnew, Fields.get?_append_self hnew, hrest⟩

theorem get?_of_ne (h : DifferAt old new (.field key :: path) (.object fields) (.object others))
    {name : String} (hname : name ≠ key) : Fields.get? fields name = Fields.get? others name := by
  cases h with
  | field hnew hrest => exact Fields.get?_append_of_ne hname

theorem fields_split (h : DifferAt old new (.field key :: path) (.object fields) (.object others)) :
    ∃ before after value other, fields = before ++ (key, value) :: after ∧
      others = before ++ (key, other) :: after ∧ DifferAt old new path value other := by
  cases h with
  | field hnew hrest => exact ⟨_, _, _, _, rfl, rfl, hrest⟩

theorem items_split {index : Nat} {items rest : List Value}
    (h : DifferAt old new (.item index :: path) (.array items) (.array rest)) :
    ∃ before after value other, before.length = index ∧ items = before ++ value :: after ∧
      rest = before ++ other :: after ∧ DifferAt old new path value other := by
  cases h with
  | item hindex hrest => exact ⟨_, _, _, _, hindex, rfl, rfl, hrest⟩

end DifferAt

end CodeReview.Json
