import CodeReview.Json.Number

/-!
# CodeReview.Json.Value

JSON values. The fields of an object keep the order in which their keys first came;
a key that is written again changes the value it holds, not its place.
-/

namespace CodeReview.Json

/-- A JSON value. -/
inductive Value
  | null
  | bool (value : Bool)
  | number (value : Number)
  | string (value : String)
  | array (items : List Value)
  | object (fields : List (String × Value))
deriving Repr, Inhabited

/-- The fields of an object, in order. -/
abbrev Fields := List (String × Value)

namespace Fields

/-- The value of a key. -/
def get? (fields : Fields) (key : String) : Option Value := fields.lookup key

/-- The key is present. -/
def has (fields : Fields) (key : String) : Bool := (get? fields key).isSome

/-- The fields with a key set: in its place if it is there, else at the end. -/
def put (key : String) (value : Value) : Fields → Fields
  | [] => [(key, value)]
  | (k, v) :: rest => if k = key then (k, value) :: rest else (k, v) :: put key value rest

/-- Setting a key keeps the keys that are there, in order, and adds it at the end if
it is new. -/
theorem keys_put (key : String) (value : Value) (fields : Fields) :
    (put key value fields).map Prod.fst =
      if key ∈ fields.map Prod.fst then fields.map Prod.fst
      else fields.map Prod.fst ++ [key] := by
  induction fields with
  | nil => simp [put]
  | cons field rest ih =>
    obtain ⟨k, v⟩ := field
    by_cases h : k = key
    · simp [put, h]
    · simp only [put, h, if_false, List.map_cons, ih, List.mem_cons, Ne.symm h, false_or]
      split <;> simp

end Fields

end CodeReview.Json
