import CodeReview.CommandLine.Run
import Mathlib.Data.List.Basic

/-!
# CodeReview.Proofs.CommandLine.Surroundings

What one variable has to do with the others. Two environments that are the same but for a
variable (`Environment.without`) stay so when a file provides variables, as long as no value in
the file refers to it.

References are looked up in the texts `NAME=value`, so a reference may find a variable by its
name, or by its name with the beginning of its value behind it (`Environment.mayFind`).
-/

namespace CodeReview

/-! ### One variable left out -/

namespace Environment

/-- The environment without a variable. -/
def without (environment : Environment) (name : String) : Environment :=
  environment.filter (·.1 != name)

theorem without_cons_self (name value : String) (environment : Environment) :
    without ((name, value) :: environment) name = environment.without name := by
  simp [without]

theorem without_cons_of_ne {name other : String} (h : other ≠ name) (value : String)
    (environment : Environment) :
    without ((other, value) :: environment) name = (other, value) :: environment.without name := by
  simp [without, h]

theorem value?_without {name other : String} (h : other ≠ name) (environment : Environment) :
    (environment.without name).value? other = environment.value? other := by
  induction environment with
  | nil => rfl
  | cons entry environment ih =>
    obtain ⟨here, value⟩ := entry
    by_cases hhere : here = name
    · subst hhere
      rw [without_cons_self, ih, value?, value?, List.lookup_cons, beq_false_of_ne h]
    · rw [without_cons_of_ne hhere, value?, List.lookup_cons, value?, List.lookup_cons]
      cases other == here with
      | true => rfl
      | false => exact ih

/-- A text may find a variable, for some value of it: it is the name, or goes on behind the name
with an equals sign. -/
def mayFind (name text : String) : Bool := (name ++ "=").toList.isPrefixOf (text ++ "=").toList

theorem after?_eq_none_of_mayFind {name text : String} (hname : '=' ∉ name.toList)
    (h : mayFind name text = false) (value : String) :
    Text.after? (text ++ "=").toList (name ++ "=" ++ value).toList = none := by
  rw [Option.eq_none_iff_forall_ne_some]
  intro rest hrest
  rw [Text.after?_eq_some_iff] at hrest
  have hprefix : ¬ name.toList ++ ['='] <+: text.toList ++ ['='] := by
    rw [← List.isPrefixOf_iff_prefix, Bool.not_eq_true]
    simpa [mayFind] using h
  have hequal : name.toList ++ '=' :: value.toList = text.toList ++ '=' :: rest := by
    simpa using hrest
  -- The shorter one of name and text ends before an equals sign of the other.
  rcases List.append_eq_append_iff.mp hequal with ⟨more, htext, hmore⟩ | ⟨more, hlonger, hmore⟩
  · cases more with
    | nil => exact hprefix (by simp [htext])
    | cons c more =>
      obtain ⟨rfl, -⟩ := List.cons.inj hmore
      exact hprefix ⟨more ++ ['='], by simp [htext]⟩
  · cases more with
    | nil => exact hprefix (by simp [hlonger])
    | cons c more =>
      obtain ⟨rfl, -⟩ := List.cons.inj hmore
      exact hname (by simp [hlonger])

theorem find?_without {name text : String} (hname : '=' ∉ name.toList)
    (h : mayFind name text = false) (environment : Environment) :
    (environment.without name).find? text = environment.find? text := by
  unfold find?
  split
  · rfl
  · induction environment with
    | nil => rfl
    | cons entry environment ih =>
      obtain ⟨here, value⟩ := entry
      by_cases hhere : here = name
      · subst hhere
        rw [without_cons_self, ih, List.findSome?_cons]
        dsimp only
        rw [after?_eq_none_of_mayFind hname h, Option.map_none]
      · rw [without_cons_of_ne hhere, List.findSome?_cons, List.findSome?_cons, ih]

theorem without_provide_self (environment : Environment) (name value : String) :
    (environment.provide name value).without name = environment.without name := by
  unfold provide
  split
  · rfl
  · exact without_cons_self name value environment

theorem without_provide_of_ne {name other : String} (h : other ≠ name) (value : String)
    (environment : Environment) :
    (environment.provide other value).without name =
      (environment.without name).provide other value := by
  unfold provide
  rw [value?_without h]
  split
  · rfl
  · exact without_cons_of_ne h value environment

/-- Environments that are the same but for one variable give every other one the same value. -/
theorem value?_eq_of_without_eq {first second : Environment} {name other : String}
    (h : first.without name = second.without name) (hother : other ≠ name) :
    first.value? other = second.value? other := by
  rw [← value?_without hother first, h, value?_without hother]

end Environment

/-! ### Variables from a file -/

namespace VariableFile

/-- The piece may stand for the value of a variable, or for the end of it. -/
def Piece.mayFind (name : String) : Piece → Bool
  | char _ => false
  | reference text => Environment.mayFind name text

/-- The value of the assignment refers to a variable. -/
def Assignment.refersTo (name : String) (assignment : Assignment) : Bool :=
  assignment.value.any (Piece.mayFind name)

/-- A value in the file refers to a variable. -/
def refersTo (name text : String) : Bool := (assignments text).any (Assignment.refersTo name)

variable {name : String}

theorem Piece.text_without (hname : '=' ∉ name.toList) {piece : Piece}
    (h : piece.mayFind name = false) (environment : Environment) :
    piece.text (environment.without name) = piece.text environment := by
  cases piece with
  | char c => rfl
  | reference text =>
    rw [Piece.text, Piece.text, Environment.find?_without hname h]

/-- What an assignment does to the other variables does not depend on this one. -/
theorem Assignment.without_make (hname : '=' ∉ name.toList) {assignment : Assignment}
    (h : assignment.refersTo name = false) (environment : Environment) :
    (assignment.make environment).without name =
      if assignment.name = name then environment.without name
      else assignment.make (environment.without name) := by
  have hvalue : assignment.value.flatMap (Piece.text (environment.without name)) =
      assignment.value.flatMap (Piece.text environment) := by
    refine List.flatMap_congr fun piece hpiece => ?_
    have hfind := List.any_eq_false.mp h piece hpiece
    exact Piece.text_without hname (Bool.eq_false_iff.mpr hfind) environment
  unfold make
  split
  · next heq =>
    subst heq
    exact Environment.without_provide_self environment _ _
  · next hne => rw [Environment.without_provide_of_ne hne, hvalue]

/-- Assignments that do not refer to a variable keep environments the same but for it. -/
theorem without_foldl_make (hname : '=' ∉ name.toList) {assignments : List Assignment}
    (h : ∀ assignment ∈ assignments, assignment.refersTo name = false) {first second : Environment}
    (hsame : first.without name = second.without name) :
    (assignments.foldl Assignment.make first).without name =
      (assignments.foldl Assignment.make second).without name := by
  induction assignments generalizing first second with
  | nil => exact hsame
  | cons assignment assignments ih =>
    have hhere := h assignment List.mem_cons_self
    refine ih (fun other hother => h other (List.mem_cons_of_mem assignment hother)) ?_
    rw [Assignment.without_make hname hhere, Assignment.without_make hname hhere, hsame]

theorem without_provideAll {text : String} (hname : '=' ∉ name.toList)
    (h : refersTo name text = false) {first second : Environment}
    (hsame : first.without name = second.without name) :
    (provideAll first text).without name = (provideAll second text).without name := by
  refine without_foldl_make hname (fun assignment hassignment => ?_) hsame
  exact Bool.eq_false_iff.mpr (List.any_eq_false.mp h assignment hassignment)

end VariableFile

/-! ### The surroundings of a call -/

namespace Call

/-- The file that provides variables, if there is one, refers to a variable. -/
def fileRefersTo (call : Call) (name : String) : Bool :=
  (call.folder.readNearest? variableFileName).any (VariableFile.refersTo name)

/-- Calls that differ in one variable have surroundings that differ in it at most. -/
theorem without_surroundings {call : Call} {environment : Environment} {name : String}
    (hname : '=' ∉ name.toList) (hfile : call.fileRefersTo name = false)
    (hsame : environment.without name = call.environment.without name) :
    ({ call with environment } : Call).surroundings.without name =
      call.surroundings.without name := by
  unfold fileRefersTo at hfile
  unfold surroundings
  dsimp only
  cases hread : call.folder.readNearest? variableFileName with
  | none => exact hsame
  | some text =>
    rw [hread] at hfile
    exact VariableFile.without_provideAll hname hfile hsame

end Call

end CodeReview
