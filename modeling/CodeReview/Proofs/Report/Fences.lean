import CodeReview.Proofs.Text.Lines
import CodeReview.Report.Fence

/-!
# CodeReview.Proofs.Report.Fences

What the report shows of a body, said without the search for closing lines. The lines of a body
fall into segments: lines outside every fence, closed fences, and at the end possibly a fence
that nothing closes (`Decomposes`). They do so in one way, and the body is shown segment by
segment (`Segment.shown`).

Both directions go by what rewriting does with the first segment of the lines
(`rewriteLines_plain`, `rewriteLines_fence`, `rewriteLines_unclosed`); nothing else opens
`rewriteLines`.
-/

namespace CodeReview.Report

open Text

/-! ### Segments -/

/-- A piece of a body. -/
inductive Segment
  /-- A line outside every fence. -/
  | plain (line : List Char)
  /-- An opening line, the lines of the replacement, and the closing line. -/
  | fence (opening : List Char) (inner : List (List Char)) (closing : List Char)
  /-- An opening line that nothing closes, and the lines after it. -/
  | unclosed (opening : List Char) (inner : List (List Char))
deriving DecidableEq, Repr

/-- What stands for a segment in the report. A fence of blank lines asks to delete; another one
asks for its other lines, trimmed, in one line. What is asked ends as the fence does. -/
def Segment.shown : Segment → List Char
  | plain line => line
  | fence _ inner closing =>
    (if ∀ line ∈ inner, line.all isBlank then "Delete this".toList
      else
        "Rewrite to `".toList ++
          [' '].intercalate ((inner.filter fun line => !line.all isBlank).map trim) ++
          "`".toList) ++
      (if ['\r', '\n'] <:+ closing then ['\r', '\n']
        else if ['\n'] <:+ closing then ['\n'] else [])
  | unclosed opening inner => opening ++ inner.flatten

/-- The lines fall into the segments, from the first line to the last. -/
inductive Decomposes : List (List Char) → List Segment → Prop
  | nil : Decomposes [] []
  | plain {line : List Char} {lines : List (List Char)} {segments : List Segment} :
      trim line ≠ "```suggestion".toList → Decomposes lines segments →
      Decomposes (line :: lines) (.plain line :: segments)
  | fence {opening closing : List Char} {inner lines : List (List Char)}
      {segments : List Segment} :
      trim opening = "```suggestion".toList → (∀ line ∈ inner, trim line ≠ "```".toList) →
      trim closing = "```".toList → Decomposes lines segments →
      Decomposes (opening :: (inner ++ closing :: lines)) (.fence opening inner closing :: segments)
  | unclosed {opening : List Char} {inner : List (List Char)} :
      trim opening = "```suggestion".toList → (∀ line ∈ inner, trim line ≠ "```".toList) →
      Decomposes (opening :: inner) [.unclosed opening inner]

/-! ### Lines of fences -/

theorem isOpening_iff {line : List Char} :
    isOpening line = true ↔ trim line = "```suggestion".toList := beq_iff_eq

theorem isOpening_eq_false_iff {line : List Char} :
    isOpening line = false ↔ trim line ≠ "```suggestion".toList := beq_eq_false_iff_ne

theorem isClosing_iff {line : List Char} : isClosing line = true ↔ trim line = "```".toList :=
  beq_iff_eq

theorem isClosing_eq_false_iff {line : List Char} :
    isClosing line = false ↔ trim line ≠ "```".toList := beq_eq_false_iff_ne

/-! ### Closing lines -/

section Closing

variable {inner other : List (List Char)} {closing next : List Char}
  {after behind lines : List (List Char)}

theorem findIdx?_isClosing_eq_none (hinner : ∀ line ∈ inner, trim line ≠ "```".toList) :
    inner.findIdx? isClosing = none :=
  List.findIdx?_eq_none_iff.mpr fun line hline => isClosing_eq_false_iff.mpr (hinner line hline)

theorem findIdx?_isClosing (hinner : ∀ line ∈ inner, trim line ≠ "```".toList)
    (hclosing : trim closing = "```".toList) :
    (inner ++ closing :: after).findIdx? isClosing = some inner.length := by
  rw [← isClosing_iff] at hclosing
  simp [List.findIdx?_append, findIdx?_isClosing_eq_none hinner, List.findIdx?_cons, hclosing]

/-- The first closing line divides the lines. -/
theorem split_of_findIdx?_isClosing {close : Nat} (h : lines.findIdx? isClosing = some close) :
    ∃ closing, trim closing = "```".toList ∧
      (∀ line ∈ lines.take close, trim line ≠ "```".toList) ∧
      lines = lines.take close ++ closing :: lines.drop (close + 1) := by
  obtain ⟨hlt, hclosing, hbefore⟩ := List.findIdx?_eq_some_iff_getElem.mp h
  refine ⟨lines[close], isClosing_iff.mp hclosing, ?_, by simp⟩
  intro line hline
  obtain ⟨i, hi, rfl⟩ := List.mem_take_iff_getElem.mp hline
  rw [← isClosing_eq_false_iff]
  simpa using hbefore i (by omega)

/-- There is one first closing line. -/
theorem split_isClosing_unique (hinner : ∀ line ∈ inner, trim line ≠ "```".toList)
    (hclosing : trim closing = "```".toList) (hother : ∀ line ∈ other, trim line ≠ "```".toList)
    (hnext : trim next = "```".toList)
    (hsame : inner ++ closing :: after = other ++ next :: behind) :
    inner = other ∧ closing = next ∧ after = behind := by
  have hlength : inner.length = other.length := by
    have hfirst : (inner ++ closing :: after).findIdx? isClosing = some inner.length :=
      findIdx?_isClosing hinner hclosing
    rw [hsame, findIdx?_isClosing hother hnext] at hfirst
    exact (Option.some.inj hfirst).symm
  obtain ⟨hin, hrest⟩ := List.append_inj hsame hlength
  exact ⟨hin, List.cons.inj hrest⟩

end Closing

/-! ### Instructions -/

theorem replacement_eq (inner : List (List Char)) :
    replacement inner =
      [' '].intercalate ((inner.filter fun line => !line.all isBlank).map trim) := by
  rw [replacement, List.filter_map]
  congr 3
  funext line
  have hblank : line.all isBlank = decide (trim line = []) := by
    rw [Bool.eq_iff_iff, List.all_eq_true, decide_eq_true_iff, trim_eq_nil_iff]
  rw [hblank]
  simp

theorem intercalate_eq_nil_iff {sep : List Char} {parts : List (List Char)}
    (h : ∀ part ∈ parts, part ≠ []) : sep.intercalate parts = [] ↔ parts = [] := by
  constructor
  · intro hnil
    match parts with
    | [] => rfl
    | [part] => simp [List.intercalate, h part] at hnil
    | part :: next :: rest => simp [List.intercalate, h part] at hnil
  · rintro rfl
    rfl

theorem replacement_eq_nil_iff {inner : List (List Char)} :
    replacement inner = [] ↔ ∀ line ∈ inner, line.all isBlank = true := by
  rw [replacement, intercalate_eq_nil_iff, List.filter_eq_nil_iff]
  · simp [trim_eq_nil_iff]
  · intro part hpart
    simpa using (List.mem_filter.mp hpart).2

theorem shown_fence (opening : List Char) (inner : List (List Char)) (closing : List Char) :
    (Segment.fence opening inner closing).shown = instruction inner ++ terminator closing := by
  rw [Segment.shown, instruction, terminator_eq]
  simp only [replacement_eq_nil_iff, ← replacement_eq]
  rfl

/-! ### Rewriting, segment by segment -/

section Rewriting

variable {line opening closing : List Char} {inner lines : List (List Char)}

@[simp] theorem rewriteLines_nil : rewriteLines [] = [] := by
  rw [rewriteLines]

theorem rewriteLines_plain (h : trim line ≠ "```suggestion".toList) (lines : List (List Char)) :
    rewriteLines (line :: lines) = line ++ rewriteLines lines := by
  simp [rewriteLines, isOpening_eq_false_iff.mpr h]

theorem rewriteLines_fence (hopening : trim opening = "```suggestion".toList)
    (hinner : ∀ line ∈ inner, trim line ≠ "```".toList) (hclosing : trim closing = "```".toList)
    (lines : List (List Char)) :
    rewriteLines (opening :: (inner ++ closing :: lines)) =
      instruction inner ++ terminator closing ++ rewriteLines lines := by
  rw [rewriteLines, if_pos (isOpening_iff.mpr hopening), findIdx?_isClosing hinner hclosing]
  simp [List.drop_append, List.drop_eq_nil_of_le]

theorem rewriteLines_unclosed (hopening : trim opening = "```suggestion".toList)
    (hinner : ∀ line ∈ inner, trim line ≠ "```".toList) :
    rewriteLines (opening :: inner) = opening ++ inner.flatten := by
  rw [rewriteLines, if_pos (isOpening_iff.mpr hopening), findIdx?_isClosing_eq_none hinner]

/-- However the lines fall into segments, these are what is shown. -/
theorem Decomposes.rewriteLines_eq {segments : List Segment} (h : Decomposes lines segments) :
    rewriteLines lines = segments.flatMap Segment.shown := by
  induction h with
  | nil => simp
  | plain hline _ ih => simp [rewriteLines_plain hline, ih, Segment.shown]
  | fence hopening hinner hclosing _ ih =>
    simp [rewriteLines_fence hopening hinner hclosing, ih, shown_fence]
  | unclosed hopening hinner => simp [rewriteLines_unclosed hopening hinner, Segment.shown]

end Rewriting

/-! ### One decomposition -/

theorem exists_decomposes (lines : List (List Char)) : ∃ segments, Decomposes lines segments := by
  fun_induction rewriteLines lines with
  | case1 => exact ⟨[], .nil⟩
  | case2 line lines hopening close hclose ih =>
    obtain ⟨segments, hsegments⟩ := ih
    obtain ⟨closing, hclosing, hinner, hsplit⟩ := split_of_findIdx?_isClosing hclose
    refine ⟨.fence line (lines.take close) closing :: segments, ?_⟩
    have hfence := Decomposes.fence (isOpening_iff.mp hopening) hinner hclosing hsegments
    rwa [← hsplit] at hfence
  | case3 line lines hopening hnone =>
    refine ⟨_, .unclosed (isOpening_iff.mp hopening) fun later hlater => ?_⟩
    exact isClosing_eq_false_iff.mp (List.findIdx?_eq_none_iff.mp hnone later hlater)
  | case4 line lines hline ih =>
    obtain ⟨segments, hsegments⟩ := ih
    rw [Bool.not_eq_true, isOpening_eq_false_iff] at hline
    exact ⟨_, .plain hline hsegments⟩

theorem Decomposes.unique {lines : List (List Char)} {segments others : List Segment}
    (h : Decomposes lines segments) (hothers : Decomposes lines others) : segments = others := by
  induction h generalizing others with
  | nil =>
    cases hothers
    rfl
  | @plain line lines segments hline hrest ih =>
    cases hothers with
    | plain _ hrest' => rw [ih hrest']
    | fence hopening => exact absurd hopening hline
    | unclosed hopening => exact absurd hopening hline
  | @fence opening closing inner lines segments hopening hinner hclosing hrest ih =>
    generalize hall : inner ++ closing :: lines = all at hothers
    cases hothers with
    | plain hline => exact absurd hopening hline
    | fence _ hinner' hclosing' hrest' =>
      obtain ⟨rfl, rfl, rfl⟩ := split_isClosing_unique hinner hclosing hinner' hclosing' hall
      rw [ih hrest']
    | unclosed _ hnone => exact absurd hclosing (hnone closing (by simp [← hall]))
  | @unclosed opening inner hopening hinner =>
    cases hothers with
    | plain hline => exact absurd hopening hline
    | @fence _ closing _ _ _ _ _ hclosing _ => exact absurd hclosing (hinner closing (by simp))
    | unclosed => rfl

/-! ### Bodies without the opening text -/

/-- A line that opens a fence holds the opening text, and so does its body. -/
theorem holds_of_opening {body : String} {line : List Char} (hline : line ∈ lines body.toList)
    (hopening : trim line = "```suggestion".toList) : holds body openingText = true := by
  have hbody : line <:+: body.toList := by
    rw [← flatten_lines body.toList]
    exact List.infix_of_mem_flatten hline
  rw [holds, occursIn_iff, openingText, ← hopening]
  exact (trim_isInfix_self line).trans hbody

theorem rewriteLines_of_forall_plain {lines : List (List Char)}
    (h : ∀ line ∈ lines, trim line ≠ "```suggestion".toList) :
    rewriteLines lines = lines.flatten := by
  induction lines with
  | nil => simp
  | cons line lines ih =>
    simp only [List.mem_cons, forall_eq_or_imp] at h
    simp [rewriteLines_plain h.1, ih h.2]

/-- Rewriting comes to the same whether or not one looks for the opening text first. -/
theorem toList_rewriteFences (body : String) :
    (rewriteFences body).toList = rewriteLines (lines body.toList) := by
  unfold rewriteFences
  split
  · exact String.toList_ofList
  · next hnot =>
    rw [rewriteLines_of_forall_plain, flatten_lines]
    intro line hline hopening
    exact hnot (holds_of_opening hline hopening)

/-- **The report shows a body segment by segment.** The lines of a body fall in one way into lines
outside every fence, closed fences, and a last one that may lack its closing line. The report
shows the first and the last as they are, and for each closed fence the instruction that its
lines make up, which ends as the closing line does. A body that does not hold the opening text,
and is not cut into lines for that reason, would not be changed if it were. -/
theorem rewriteFences_shows_segments (body : String) :
    (∃! segments, Decomposes (lines body.toList) segments) ∧
      (∃ segments, Decomposes (lines body.toList) segments ∧
        (rewriteFences body).toList = segments.flatMap Segment.shown) ∧
      (rewriteFences body).toList = rewriteLines (lines body.toList) := by
  obtain ⟨segments, hsegments⟩ := exists_decomposes (lines body.toList)
  refine ⟨⟨segments, hsegments, ?_⟩, ⟨segments, hsegments, ?_⟩, toList_rewriteFences body⟩
  · intro others hothers
    exact hothers.unique hsegments
  · rw [toList_rewriteFences, hsegments.rewriteLines_eq]

/-- A remark, a fence that is closed, and one that is not. -/
def halfOpenBody : String :=
  "Nit:\n ```suggestion\n let x; \n\n\ty\n```\r\n```suggestion\nlet z;"

/-- What it falls into. -/
def halfOpenSegments : List Segment :=
  [.plain "Nit:\n".toList,
    .fence " ```suggestion\n".toList [" let x; \n".toList, "\n".toList, "\ty\n".toList]
      "```\r\n".toList,
    .unclosed "```suggestion\n".toList ["let z;".toList]]

/-- The closed fence is rewritten and ends as its last line does; the open one is kept. -/
theorem rewriteFences_shows_segments_halfOpenBody :
    Decomposes (lines halfOpenBody.toList) halfOpenSegments ∧
      (rewriteFences halfOpenBody).toList = halfOpenSegments.flatMap Segment.shown ∧
      rewriteFences halfOpenBody = "Nit:\nRewrite to `let x; y`\r\n```suggestion\nlet z;" := by
  obtain ⟨⟨_, _, honly⟩, ⟨segments, hsegments, hshown⟩, -⟩ :=
    rewriteFences_shows_segments halfOpenBody
  have hlines : lines halfOpenBody.toList =
      ["Nit:\n".toList, " ```suggestion\n".toList, " let x; \n".toList, "\n".toList,
        "\ty\n".toList, "```\r\n".toList, "```suggestion\n".toList, "let z;".toList] := by
    decide
  have hfalls : Decomposes (lines halfOpenBody.toList) halfOpenSegments := by
    rw [hlines]
    refine .plain (by decide) (@Decomposes.fence _ _
      [" let x; \n".toList, "\n".toList, "\ty\n".toList] _ _ (by decide) (by decide)
      (by decide) ?_)
    exact .unclosed (by decide) (by decide)
  obtain rfl : segments = halfOpenSegments :=
    (honly _ hsegments).trans (honly _ hfalls).symm
  refine ⟨hfalls, hshown, ?_⟩
  rw [← String.toList_inj, hshown]
  decide

end CodeReview.Report
