import CodeReview.Text.Search

/-!
# CodeReview.CommandLine.Environment

Environment variables: names with values. Of several values of a name the first counts.
-/

namespace CodeReview

/-- Environment variables. -/
abbrev Environment := List (String × String)

namespace Environment

/-- The value of a variable. -/
def value? (environment : Environment) (name : String) : Option String :=
  environment.lookup name

/-- The value that a text finds. A variable is kept as its name and its value with an
equals sign between them, and what follows the text and an equals sign there is found. So
a name finds the value of the variable, and a text that goes on into the value of a
variable finds the rest of it: with `B=x` in the variable `A`, `A=B` finds `x`. -/
def find? (environment : Environment) (text : String) : Option String :=
  if text = "" then none
  else
    environment.findSome? fun (name, value) =>
      (Text.after? (text ++ "=").toList (name ++ "=" ++ value).toList).map String.ofList

/-- Sets a variable unless it has a value. -/
def provide (environment : Environment) (name value : String) : Environment :=
  if (environment.value? name).isSome then environment else (name, value) :: environment

/-- A variable that has a value keeps it. -/
theorem value?_provide_of_some {environment : Environment} {name value other kept : String}
    (h : environment.value? other = some kept) :
    (environment.provide name value).value? other = some kept := by
  unfold provide
  split
  · exact h
  · next hn =>
    have hne : other ≠ name := by
      rintro rfl
      simp [h] at hn
    simpa [value?, List.lookup_cons, beq_false_of_ne hne] using h

/-- A variable without a value gets one. -/
theorem value?_provide_of_none {environment : Environment} {name value : String}
    (h : environment.value? name = none) :
    (environment.provide name value).value? name = some value := by
  simp only [provide, h, Option.isSome_none, Bool.false_eq_true, if_false]
  simp [value?]

end Environment

end CodeReview
