import CodeReview.Html.Parser
import CodeReview.Json.Reader
import Mathlib.Tactic.SplitIfs

/-!
# CodeReview.Proofs.Json.Accepted

What texts that are read as values have in common:

* Their lines may end in any way (`read_normalizeNewlines`). Where white space may stand the two
  characters that end a line are the same, and one of them is as good as two. Anywhere else the
  reading is lost with the first of them (`State.isLost`), and no text that follows makes up for
  it.
* They hold no null character (`null_notMem_of_read`), for the same reason.
* Those that are read as objects begin with a brace (`State.head?_trimStart_of_run`). Each of the
  other beginnings opens something that never turns into an object, however the text goes on
  (`State.mayBeObject`).

A reader that is in the middle of a word compares the letters that are left of it, so the first
two ask that these are letters (`State.isSound`).
-/

namespace CodeReview.Json

theorem isBlank_of_isSpace {c : Char} (h : isSpace c = true) : Text.isBlank c = true := by
  simp only [isSpace, Bool.or_eq_true, beq_iff_eq] at h
  obtain ((rfl | rfl) | rfl) | rfl := h <;> decide

namespace State

/-! ### Lost readings -/

/-- No text that follows makes a value of it: the reading has failed, or stands in an escape that
holds a letter which is no digit. -/
def isLost : State → Bool
  | failed | surplus _ => true
  | reading _ (.string _ _ (.hex _ none _)) => true
  | _ => false

theorem isLost_step {state : State} (h : state.isLost = true) (c : Char) :
    (state.step c).isLost = true := by
  unfold isLost at h
  split at h
  · rfl
  · rfl
  · simp only [step, stepString, stepHex]
    split <;> rfl
  · cases h

theorem isLost_run {state : State} (h : state.isLost = true) (text : List Char) :
    (state.run text).isLost = true := by
  induction text generalizing state with
  | nil => exact h
  | cons c text ih => exact ih (isLost_step h c)

theorem close_ne_complete_of_isLost {state : State} (h : state.isLost = true) (value : Value) :
    state.close ≠ complete value := by
  unfold isLost at h
  split at h
  · exact State.noConfusion
  · exact State.noConfusion
  · exact State.noConfusion
  · cases h

theorem isLost_eq_false_of_run {state : State} {text : List Char} {value : Value}
    (h : (state.run text).close = complete value) : state.isLost = false := by
  cases hlost : state.isLost with
  | false => rfl
  | true => exact absurd h (close_ne_complete_of_isLost (isLost_run hlost text) value)

/-! ### Words -/

/-- What is left of a word holds letters only. -/
def isSound : State → Bool
  | reading _ (.word rest _) => rest.all Char.isAlpha
  | _ => true

theorem isSound_finish (value : Value) (stack : List Frame) :
    (finish value stack).isSound = true := by
  unfold finish
  split <;> rfl

theorem isSound_finishNumber (stack : List Frame) (digits : Digits) :
    (finishNumber stack digits).isSound = true := by
  unfold finishNumber
  split
  · exact isSound_finish _ _
  · rfl

theorem isSound_beginValue (stack : List Frame) (c : Char) :
    (beginValue stack c).isSound = true := by
  unfold beginValue openFrame
  split_ifs <;> rfl

theorem isSound_afterValue {state : State} (h : state.isSound = true) (c : Char) :
    (afterValue state c).isSound = true := by
  unfold afterValue
  split
  · split_ifs <;> rfl
  · split_ifs
    · rfl
    · rfl
    · exact isSound_finish _ _
    · rfl
  · split_ifs
    · rfl
    · rfl
    · exact isSound_finish _ _
    · rfl
  · rfl

theorem isSound_finishString (stack : List Frame) (isKey : Bool) (letters : List Char) :
    (finishString stack isKey letters).isSound = true := by
  unfold finishString finishKey
  split_ifs
  · split <;> rfl
  · exact isSound_finish _ _

theorem isSound_stepString (stack : List Frame) (isKey : Bool) (letters : List Char)
    (escape : Escape) (c : Char) : (stepString stack isKey letters escape c).isSound = true := by
  cases escape with
  | outside =>
    simp only [stepString]
    split_ifs
    · exact isSound_finishString _ _ _
    all_goals rfl
  | backslash =>
    simp only [stepString]
    split_ifs
    · rfl
    · split <;> rfl
  | hex bytes code lead =>
    simp only [stepString, stepHex, finishHex]
    split_ifs
    · rfl
    · split
      · split <;> split_ifs <;> rfl
      · rfl
  | pair lead =>
    simp only [stepString]
    split_ifs <;> rfl
  | pairBackslash lead =>
    simp only [stepString]
    split_ifs <;> rfl

theorem isSound_stepNumber (stack : List Frame) (digits : Digits) (part : NumberPart) (c : Char) :
    (stepNumber stack digits part c).isSound = true := by
  unfold stepNumber
  split
  · rfl
  · split_ifs
    · exact isSound_afterValue (isSound_finishNumber _ _) c
    · rfl

theorem isSound_step {state : State} (h : state.isSound = true) (c : Char) :
    (state.step c).isSound = true := by
  cases state with
  | complete value => exact isSound_afterValue h c
  | surplus value => rfl
  | failed => rfl
  | reading stack spot =>
    cases spot with
    | value =>
      simp only [step]
      split_ifs
      · rfl
      · exact isSound_beginValue _ _
    | firstItem =>
      simp only [step]
      split_ifs
      · rfl
      · split
        · exact isSound_finish _ _
        · exact isSound_beginValue _ _
    | firstKey =>
      simp only [step]
      split_ifs
      · rfl
      · rfl
      · split
        · exact isSound_finish _ _
        · rfl
    | key =>
      simp only [step]
      split_ifs <;> rfl
    | colon =>
      simp only [step]
      split_ifs <;> rfl
    | next => exact isSound_afterValue h c
    | string isKey letters escape => exact isSound_stepString _ _ _ _ _
    | word rest value =>
      simp only [step]
      split
      · rfl
      · split_ifs
        · exact isSound_finish _ _
        · rfl
      · split_ifs
        · exact (Bool.and_eq_true_iff.mp h).2
        · rfl
    | number digits part => exact isSound_stepNumber _ _ _ _

/-! ### Ends of lines -/

theorem afterValue_carriageReturn (state : State) :
    afterValue state '\r' = afterValue state '\n' := by
  unfold afterValue
  split <;> rfl

theorem afterValue_newline_step (state : State) :
    (afterValue state '\n').step '\n' = afterValue state '\n' := by
  unfold afterValue
  split <;> rfl

theorem extend?_newline (digits : Digits) (part : NumberPart) :
    extend? digits part '\n' = none := by
  cases part <;> rfl

theorem extend?_carriageReturn (digits : Digits) (part : NumberPart) :
    extend? digits part '\r' = none := by
  cases part <;> rfl

theorem stepNumber_newline (stack : List Frame) (digits : Digits) (part : NumberPart) :
    stepNumber stack digits part '\n' =
      if part.mayEnd then afterValue (finishNumber stack digits) '\n' else failed := by
  rw [stepNumber, extend?_newline]
  cases part <;> rfl

theorem stepNumber_carriageReturn (stack : List Frame) (digits : Digits) (part : NumberPart) :
    stepNumber stack digits part '\r' = stepNumber stack digits part '\n' := by
  rw [stepNumber_newline, ← afterValue_carriageReturn, stepNumber, extend?_carriageReturn]
  cases part <;> rfl

/-- No word goes on with a character that is no letter. -/
theorem step_word_of_not_isAlpha {stack : List Frame} {rest : List Char} {value : Value}
    (h : (reading stack (.word rest value)).isSound = true) {c : Char} (hc : c.isAlpha = false) :
    (reading stack (.word rest value)).step c = failed := by
  have hne : ∀ letter ∈ rest, c ≠ letter := by
    rintro letter hletter rfl
    rw [List.all_eq_true.mp h c hletter] at hc
    cases hc
  simp only [step]
  split
  · rfl
  · rw [if_neg (hne _ (by simp))]
  · rw [if_neg (hne _ (by simp))]

/-- Line feed and carriage return are the same to the reader. -/
theorem step_carriageReturn {state : State} (h : state.isSound = true) :
    state.step '\r' = state.step '\n' := by
  cases state with
  | complete value => rfl
  | surplus value => rfl
  | failed => rfl
  | reading stack spot =>
    cases spot with
    | next => exact afterValue_carriageReturn _
    | string isKey letters escape =>
      cases escape with
      | hex bytes code lead => cases code <;> rfl
      | _ => rfl
    | word rest value =>
      rw [step_word_of_not_isAlpha h (by decide), step_word_of_not_isAlpha h (by decide)]
    | number digits part => exact stepNumber_carriageReturn stack digits part
    | _ => rfl

/-- What one of them does, a second one does not undo, but in an escape, which is lost. -/
theorem step_newline_newline {state : State} (h : state.isSound = true) :
    (state.step '\n').isLost = true ∨ (state.step '\n').step '\n' = state.step '\n' := by
  cases state with
  | complete value => exact .inr rfl
  | surplus value => exact .inr rfl
  | failed => exact .inr rfl
  | reading stack spot =>
    cases spot with
    | next => exact .inr (afterValue_newline_step _)
    | string isKey letters escape =>
      left
      cases escape with
      | hex bytes code lead =>
        -- An escape only fails with its fourth byte, but it has no value any more.
        simp only [step, stepString, stepHex]
        cases code <;> split_ifs <;> rfl
      | _ => rfl
    | word rest value =>
      rw [step_word_of_not_isAlpha h (by decide)]
      exact .inl rfl
    | number digits part =>
      right
      have hstep : (reading stack (.number digits part)).step '\n' = _ :=
        stepNumber_newline stack digits part
      rw [hstep]
      split
      · exact afterValue_newline_step _
      · rfl
    | _ => exact .inr rfl

/-- A text is lost, or read the same with a line feed at the end of every line. -/
theorem run_normalizeNewlines {state : State} (h : state.isSound = true) (text : List Char) :
    (state.run text).isLost = true ∨ state.run (Html.normalizeNewlines text) = state.run text := by
  fun_induction Html.normalizeNewlines text generalizing state with
  | case1 => exact .inr rfl
  | case2 text ih =>
    -- The text has two characters where the changed one has one.
    rw [run_cons, run_cons, run_cons, step_carriageReturn h]
    obtain hlost | hsame := step_newline_newline h
    · exact .inl (isLost_run (isLost_step hlost _) text)
    · rw [hsame]
      exact ih (isSound_step h _)
  | case3 text hnext ih =>
    rw [run_cons, run_cons, step_carriageReturn h]
    exact ih (isSound_step h _)
  | case4 c text hpair hreturn ih =>
    rw [run_cons, run_cons]
    exact ih (isSound_step h _)

/-! ### Null characters -/

theorem isLost_afterValue_null (state : State) : (afterValue state '\x00').isLost = true := by
  unfold afterValue
  split <;> rfl

theorem isLost_step_null {state : State} (h : state.isSound = true) :
    (state.step '\x00').isLost = true := by
  cases state with
  | complete value => rfl
  | surplus value => rfl
  | failed => rfl
  | reading stack spot =>
    cases spot with
    | next => exact isLost_afterValue_null _
    | string isKey letters escape =>
      cases escape with
      | hex bytes code lead =>
        simp only [step, stepString, stepHex]
        cases code <;> split_ifs <;> rfl
      | _ => rfl
    | word rest value =>
      rw [step_word_of_not_isAlpha h (by decide)]
      rfl
    | number digits part =>
      have hextend : extend? digits part '\x00' = none := by cases part <;> rfl
      simp only [step, stepNumber, hextend]
      split
      · exact isLost_afterValue_null _
      · rfl
    | _ => rfl

theorem null_notMem_of_run {state : State} (h : state.isSound = true) {text : List Char}
    {value : Value} (hrun : (state.run text).close = complete value) : '\x00' ∉ text := by
  induction text generalizing state with
  | nil => exact List.not_mem_nil
  | cons c text ih =>
    rw [run_cons] at hrun
    rw [List.mem_cons, not_or]
    refine ⟨?_, ih (isSound_step h c) hrun⟩
    rintro rfl
    have hlost := isLost_eq_false_of_run hrun
    rw [isLost_step_null h] at hlost
    cases hlost

/-! ### Objects -/

end State

/-- The value is an object. -/
def Value.isObject : Value → Bool
  | object _ => true
  | _ => false

/-- The container is an object. -/
def Frame.isObject : Frame → Bool
  | object _ _ => true
  | array _ => false

namespace State

/-- The outermost of the containers is an object; `innermost` says so of what is in none. -/
def outermost (innermost : Bool) (stack : List Frame) : Bool :=
  stack.foldl (fun _ frame => frame.isObject) innermost

/-- The value that is read may turn out to be an object. -/
def mayBeObject : State → Bool
  | reading stack .value | reading stack .firstItem | reading stack .colon =>
    outermost true stack
  | reading stack .firstKey => outermost true stack.tail
  | reading stack (.word _ value) => outermost value.isObject stack
  | reading stack _ => outermost false stack
  | complete value | surplus value => value.isObject
  | failed => false

theorem outermost_mono {a b : Bool} (hab : a ≤ b) {stack : List Frame}
    (h : outermost b stack = false) : outermost a stack = false := by
  cases stack with
  | nil =>
    obtain rfl : b = false := h
    cases a with
    | false => rfl
    | true => exact absurd (hab rfl) Bool.false_ne_true
  | cons frame stack => exact h

theorem mayBeObject_finish (value : Value) (stack : List Frame) :
    (finish value stack).mayBeObject = outermost value.isObject stack := by
  cases stack with
  | nil => rfl
  | cons frame stack => cases frame <;> rfl

theorem mayBeObject_finishNumber {stack : List Frame} (h : outermost false stack = false)
    (digits : Digits) : (finishNumber stack digits).mayBeObject = false := by
  unfold finishNumber
  split
  · exact (mayBeObject_finish _ _).trans h
  · rfl

/-- Only a brace begins an object. -/
theorem mayBeObject_beginValue {stack : List Frame} {c : Char}
    (h : outermost false stack = false) (hbrace : c = '\x7b' → outermost true stack = false) :
    (beginValue stack c).mayBeObject = false := by
  unfold beginValue openFrame
  split_ifs with _ _ _ hc
  case pos => exact h
  case pos => exact h
  case pos => exact hbrace hc
  all_goals first | exact h | rfl

theorem mayBeObject_afterValue {state : State} (h : state.mayBeObject = false) (c : Char) :
    (afterValue state c).mayBeObject = false := by
  unfold afterValue
  split
  · split_ifs <;> exact h
  · split_ifs
    · exact h
    · exact h
    · exact (mayBeObject_finish _ _).trans h
    · rfl
  · split_ifs
    · exact h
    · exact h
    · exact (mayBeObject_finish _ _).trans h
    · rfl
  · rfl

theorem mayBeObject_stepString {stack : List Frame} (h : outermost false stack = false)
    (isKey : Bool) (letters : List Char) (escape : Escape) (c : Char) :
    (stepString stack isKey letters escape c).mayBeObject = false := by
  cases escape with
  | outside =>
    simp only [stepString, finishString, finishKey]
    split_ifs
    · split
      · exact h
      · rfl
    · exact (mayBeObject_finish _ _).trans h
    · exact h
    · rfl
    · exact h
  | backslash =>
    simp only [stepString]
    split_ifs
    · exact h
    · split
      · exact h
      · rfl
  | hex bytes code lead =>
    simp only [stepString, stepHex, finishHex]
    split_ifs
    · exact h
    · split
      · split <;> split_ifs <;> first | exact h | rfl
      · rfl
  | pair lead =>
    simp only [stepString]
    split_ifs
    · exact h
    · rfl
  | pairBackslash lead =>
    simp only [stepString]
    split_ifs
    · exact h
    · rfl

theorem mayBeObject_step {state : State} (h : state.mayBeObject = false) (c : Char) :
    (state.step c).mayBeObject = false := by
  cases state with
  | complete value => exact mayBeObject_afterValue h c
  | surplus value => exact h
  | failed => rfl
  | reading stack spot =>
    cases spot with
    | value =>
      simp only [step]
      split_ifs
      · exact h
      · exact mayBeObject_beginValue (outermost_mono (Bool.false_le _) h) fun _ => h
    | firstItem =>
      simp only [step]
      split_ifs
      · exact h
      · split
        · exact (mayBeObject_finish _ _).trans (outermost_mono (Bool.false_le _) h)
        · exact mayBeObject_beginValue (outermost_mono (Bool.false_le _) h) fun _ => h
    | firstKey =>
      simp only [step]
      split_ifs
      · exact h
      · cases stack with
        | nil => rfl
        | cons frame stack =>
          have houter : outermost true stack = false := h
          show outermost frame.isObject stack = false
          exact outermost_mono (Bool.le_true _) houter
      · split
        · exact (mayBeObject_finish _ _).trans h
        · rfl
    | key =>
      simp only [step]
      split_ifs
      · exact h
      · exact h
      · rfl
    | colon =>
      simp only [step]
      split_ifs
      · exact h
      · exact h
      · rfl
    | next => exact mayBeObject_afterValue h c
    | string isKey letters escape => exact mayBeObject_stepString h _ _ _ _
    | word rest value =>
      simp only [step]
      split
      · rfl
      · split_ifs
        · exact (mayBeObject_finish _ _).trans h
        · rfl
      · split_ifs
        · exact h
        · rfl
    | number digits part =>
      simp only [step, stepNumber]
      split
      · exact h
      · split_ifs
        · exact mayBeObject_afterValue (mayBeObject_finishNumber h _) c
        · rfl

theorem mayBeObject_run {state : State} (h : state.mayBeObject = false) (text : List Char) :
    (state.run text).mayBeObject = false := by
  induction text generalizing state with
  | nil => exact h
  | cons c text ih => exact ih (mayBeObject_step h c)

theorem mayBeObject_close {state : State} (h : state.mayBeObject = false) :
    state.close.mayBeObject = false := by
  unfold close
  split
  · split_ifs
    · exact mayBeObject_finishNumber h _
    · exact h
  · exact h

/-- A text that is read as an object begins with a brace, behind blanks. -/
theorem head?_trimStart_of_run {text : List Char} {fields : Fields}
    (h : (start.run text).close = complete (.object fields)) :
    (Text.trimStart text).head? = some '\x7b' := by
  induction text with
  | nil => cases h
  | cons c text ih =>
    rw [run_cons] at h
    cases hspace : isSpace c with
    | true =>
      have hstep : start.step c = start := if_pos hspace
      rw [hstep] at h
      rw [Text.trimStart, List.dropWhile_cons_of_pos (isBlank_of_isSpace hspace)]
      exact ih h
    | false =>
      have hstep : start.step c = beginValue [] c := if_neg (ne_true_of_eq_false hspace)
      rw [hstep] at h
      by_cases hc : c = '\x7b'
      · subst hc
        rfl
      · have hnone : (beginValue [] c).mayBeObject = false :=
          mayBeObject_beginValue rfl fun hbrace => absurd hbrace hc
        have hobject := mayBeObject_close (mayBeObject_run hnone text)
        rw [h] at hobject
        cases hobject

end State

/-! ### Texts -/

theorem read_eq_ok_iff {text : String} {value : Value} :
    read text = .ok value ↔ (State.start.run text.toList).close = .complete value := by
  unfold read scan
  split <;> simp [*]

/-- A text that is read keeps its value when every line ends with a line feed. -/
theorem read_normalizeNewlines {text : String} {value : Value} (h : read text = .ok value) :
    read (String.ofList (Html.normalizeNewlines text.toList)) = .ok value := by
  rw [read_eq_ok_iff] at h
  rw [read_eq_ok_iff, String.toList_ofList]
  have hstart : State.start.isSound = true := rfl
  obtain hlost | hsame := State.run_normalizeNewlines hstart text.toList
  · exact absurd h (State.close_ne_complete_of_isLost hlost value)
  · rw [hsame]
    exact h

theorem null_notMem_of_read {text : String} {value : Value} (h : read text = .ok value) :
    '\x00' ∉ text.toList :=
  State.null_notMem_of_run rfl (read_eq_ok_iff.mp h)

end CodeReview.Json
