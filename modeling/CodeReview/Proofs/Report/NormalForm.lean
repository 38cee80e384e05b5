import CodeReview.Proofs.Report.Fences

/-!
# CodeReview.Proofs.Report.NormalForm

A body in which the fences have been rewritten has no closed fence left, so rewriting it again
changes nothing; and a body may be rewritten in two parts if the first ends with a line and
leaves no fence open.

What carries this is that the lines of the rewritten body are known: they are those that stand
for the segments of the body (`lines_rewriteFences`). An instruction is one line, since no
newline is left in what it quotes, and it opens no fence, since it starts with a letter.
-/

namespace CodeReview.Report

open Text

/-- No line opens a fence that a later line closes. -/
def NoClosedFence (lines : List (List Char)) : Prop :=
  lines.Pairwise fun earlier later =>
    ¬ (trim earlier = "```suggestion".toList ∧ trim later = "```".toList)

instance (lines : List (List Char)) : Decidable (NoClosedFence lines) :=
  inferInstanceAs (Decidable (lines.Pairwise _))

/-! ### Instructions -/

section Instruction

variable {inner : List (List Char)}

/-- An instruction starts with a letter. -/
theorem instruction_eq_cons (inner : List (List Char)) :
    ∃ c rest, instruction inner = c :: rest ∧ (c = 'D' ∨ c = 'R') := by
  unfold instruction
  split
  · exact ⟨'D', "elete this".toList, by decide, .inl rfl⟩
  · exact ⟨'R', "ewrite to `".toList ++ replacement inner ++ ['`'], by rfl, .inr rfl⟩

/-- A line that starts with another character than an opening line does opens no fence. -/
theorem trim_cons_ne_opening {c : Char} (hblank : isBlank c = false) (hc : c ≠ '`')
    (rest : List Char) : trim (c :: rest) ≠ "```suggestion".toList := by
  intro hopening
  have hhead := head?_trim hblank rest
  rw [hopening] at hhead
  exact hc (Option.some.inj hhead).symm

theorem trim_instruction_ne_opening (inner : List (List Char)) (after : List Char) :
    trim (instruction inner ++ after) ≠ "```suggestion".toList := by
  obtain ⟨c, rest, hcons, hc⟩ := instruction_eq_cons inner
  rw [hcons]
  rcases hc with rfl | rfl
  · exact trim_cons_ne_opening (by decide) (by decide) _
  · exact trim_cons_ne_opening (by decide) (by decide) _

theorem mem_intercalate {c : Char} {sep : List Char} {parts : List (List Char)}
    (h : c ∈ sep.intercalate parts) : c ∈ sep ∨ ∃ part ∈ parts, c ∈ part := by
  induction parts with
  | nil => simp at h
  | cons part parts ih =>
    cases parts with
    | nil => exact .inr ⟨part, by simp, by simpa [List.intercalate] using h⟩
    | cons next rest =>
      rw [List.intercalate_cons_cons] at h
      simp only [List.mem_append] at h
      rcases h with (hpart | hsep) | hrest
      · exact .inr ⟨part, by simp, hpart⟩
      · exact .inl hsep
      · rcases ih hrest with hsep | ⟨other, hother, hmem⟩
        · exact .inl hsep
        · exact .inr ⟨other, List.mem_cons_of_mem _ hother, hmem⟩

theorem newline_notMem_instruction (h : ∀ line ∈ inner, '\n' ∉ trim line) :
    '\n' ∉ instruction inner := by
  have hreplacement : '\n' ∉ replacement inner := by
    intro hmem
    rcases mem_intercalate hmem with hsep | ⟨part, hpart, hmem⟩
    · simp at hsep
    · obtain ⟨line, hline, rfl⟩ := List.mem_map.mp (List.mem_filter.mp hpart).1
      exact h line hline hmem
  unfold instruction
  split
  · decide
  · simp [hreplacement]

end Instruction

/-! ### The lines of a rewritten body -/

/-- The lines that stand for a segment in the report. -/
def Segment.shownLines : Segment → List (List Char)
  | plain line => [line]
  | fence _ inner closing => [instruction inner ++ terminator closing]
  | unclosed opening inner => opening :: inner

theorem Segment.flatten_shownLines (segment : Segment) :
    segment.shownLines.flatten = segment.shown := by
  cases segment with
  | plain line => simp [shownLines, shown]
  | fence opening inner closing => simp [shownLines, shown_fence]
  | unclosed opening inner => simp [shownLines, shown]

theorem Segment.flatten_flatMap_shownLines (segments : List Segment) :
    (segments.flatMap shownLines).flatten = segments.flatMap shown := by
  induction segments with
  | nil => rfl
  | cons segment segments ih => simp [ih, flatten_shownLines]

theorem Decomposes.eq_nil {segments : List Segment} (h : Decomposes [] segments) :
    segments = [] := by
  cases h
  rfl

/-- What is shown for the segments is cut into lines as the body was. -/
theorem Decomposes.cut_shownLines {lines : List (List Char)} {segments : List Segment}
    (h : Decomposes lines segments) (hcut : Cut lines) :
    Cut (segments.flatMap Segment.shownLines) := by
  induction h with
  | nil => exact .nil
  | plain hline hrest ih =>
    cases hcut with
    | last hne hnone =>
      rw [hrest.eq_nil]
      exact .last hne hnone
    | line hstem hcut => exact .line hstem (ih hcut)
  | @fence opening closing inner lines segments hopening hinner hclosing hrest ih =>
    have hinstruction : '\n' ∉ instruction inner :=
      newline_notMem_instruction fun line hline => hcut.newline_notMem_trim (by simp [hline])
    obtain ⟨c, rest, hcons, -⟩ := instruction_eq_cons inner
    -- The instruction ends as the closing line does, which is the last line or has a newline.
    have hbehind : Cut (closing :: lines) := @Cut.of_append (opening :: inner) _ hcut
    rw [List.flatMap_cons, Segment.shownLines, List.singleton_append]
    cases hbehind with
    | last hne hnone =>
      rw [hrest.eq_nil, terminator_of_notMem hnone, List.append_nil]
      exact .last (by simp [hcons]) hinstruction
    | @line stem _ hstem hcut =>
      rcases terminator_newline stem with hend | hend
      · rw [hend]
        have hline : '\n' ∉ instruction inner ++ ['\r'] := by simp [hinstruction]
        simpa using Cut.line hline (ih hcut)
      · rw [hend]
        exact .line hinstruction (ih hcut)
  | unclosed hopening hinner => simpa [Segment.shownLines] using hcut

theorem lines_rewriteFences {body : String} {segments : List Segment}
    (h : Decomposes (lines body.toList) segments) :
    lines (rewriteFences body).toList = segments.flatMap Segment.shownLines := by
  rw [lines_eq_iff, toList_rewriteFences, h.rewriteLines_eq, Segment.flatten_flatMap_shownLines]
  exact ⟨h.cut_shownLines (cut_lines _), rfl⟩

/-! ### Normal form -/

/-- Only the last segment may open a fence in the report, and then it is not closed. -/
theorem Decomposes.noClosedFence {lines : List (List Char)} {segments : List Segment}
    (h : Decomposes lines segments) : NoClosedFence (segments.flatMap Segment.shownLines) := by
  induction h with
  | nil => exact .nil
  | plain hline _ ih =>
    refine List.pairwise_cons.mpr ⟨?_, ih⟩
    intro later _ hfence
    exact hline hfence.1
  | fence _ _ _ _ ih =>
    refine List.pairwise_cons.mpr ⟨?_, ih⟩
    intro later _ hfence
    exact trim_instruction_ne_opening _ _ hfence.1
  | unclosed _ hinner =>
    simp only [List.flatMap_cons, List.flatMap_nil, List.append_nil, Segment.shownLines]
    refine List.pairwise_cons.mpr ⟨?_, ?_⟩
    · intro later hlater hfence
      exact hinner later hlater hfence.2
    · refine List.pairwise_of_forall_mem_list ?_
      intro earlier _ later hlater hfence
      exact hinner later hlater hfence.2

/-- Without closed fences nothing is rewritten. -/
theorem rewriteLines_of_noClosedFence {lines : List (List Char)} (h : NoClosedFence lines) :
    rewriteLines lines = lines.flatten := by
  induction lines with
  | nil => simp
  | cons line lines ih =>
    obtain ⟨hline, hrest⟩ := List.pairwise_cons.mp h
    by_cases hopening : trim line = "```suggestion".toList
    · rw [rewriteLines_unclosed hopening, List.flatten_cons]
      intro later hlater hclosing
      exact hline later hlater ⟨hopening, hclosing⟩
    · rw [rewriteLines_plain hopening, ih hrest, List.flatten_cons]

theorem rewriteFences_of_noClosedFence {body : String} (h : NoClosedFence (lines body.toList)) :
    rewriteFences body = body := by
  rw [← String.toList_inj, toList_rewriteFences, rewriteLines_of_noClosedFence h, flatten_lines]

/-! ### Bodies in two parts -/

/-- Each fence that is met in reading the body is closed in it. -/
def ClosesFences (body : String) : Prop :=
  ∀ segments, Decomposes (lines body.toList) segments →
    ∀ opening inner, .unclosed opening inner ∉ segments

theorem Decomposes.append {first second : List (List Char)} {segments others : List Segment}
    (h : Decomposes first segments) (hclosed : ∀ opening inner, .unclosed opening inner ∉ segments)
    (hsecond : Decomposes second others) : Decomposes (first ++ second) (segments ++ others) := by
  induction h with
  | nil => exact hsecond
  | plain hline _ ih =>
    refine .plain hline (ih ?_)
    intro opening inner hmem
    exact hclosed opening inner (List.mem_cons_of_mem _ hmem)
  | @fence opening closing inner lines segments hopening hinner hclosing _ ih =>
    have hrest := ih fun opening inner hmem => hclosed opening inner (List.mem_cons_of_mem _ hmem)
    simpa using Decomposes.fence hopening hinner hclosing hrest
  | unclosed => simp at hclosed

theorem lines_append_of_endsLine {first : String} (h : first = "" ∨ ∃ stem, first = stem ++ "\n")
    (second : String) :
    lines (first ++ second).toList = lines first.toList ++ lines second.toList := by
  rcases h with rfl | ⟨stem, rfl⟩
  · simp
  · simpa using lines_append stem.toList second.toList

/-- **Rewriting is complete in one pass.** No fence is closed in a rewritten body, so it stays as
it is if it is rewritten again. A body in two parts, the first of which is empty or ends with a
newline and closes its fences, is rewritten part by part. -/
theorem rewriteFences_normal :
    (∀ body, NoClosedFence (lines (rewriteFences body).toList) ∧
      rewriteFences (rewriteFences body) = rewriteFences body) ∧
    (∀ first second, (first = "" ∨ ∃ stem, first = stem ++ "\n") → ClosesFences first →
      rewriteFences (first ++ second) = rewriteFences first ++ rewriteFences second) := by
  constructor
  · intro body
    obtain ⟨segments, hsegments⟩ := exists_decomposes (lines body.toList)
    have hnormal : NoClosedFence (lines (rewriteFences body).toList) := by
      rw [lines_rewriteFences hsegments]
      exact hsegments.noClosedFence
    exact ⟨hnormal, rewriteFences_of_noClosedFence hnormal⟩
  · intro first second hends hcloses
    obtain ⟨segments, hsegments⟩ := exists_decomposes (lines first.toList)
    obtain ⟨others, hothers⟩ := exists_decomposes (lines second.toList)
    have hboth := hsegments.append (hcloses _ hsegments) hothers
    rw [← lines_append_of_endsLine hends] at hboth
    rw [← String.toList_inj, String.toList_append, toList_rewriteFences, toList_rewriteFences,
      toList_rewriteFences, hboth.rewriteLines_eq, hsegments.rewriteLines_eq,
      hothers.rewriteLines_eq, List.flatMap_append]

/-- A remark, and a fence with a blank line and an opening line in it. -/
def nestedBody : String := "Nit:\r\n```suggestion\r\n let x; \r\n\r\n```suggestion\r\n ```\r\n"

/-- What it falls into. -/
def nestedSegments : List Segment :=
  [.plain "Nit:\r\n".toList,
    .fence "```suggestion\r\n".toList
      [" let x; \r\n".toList, "\r\n".toList, "```suggestion\r\n".toList] " ```\r\n".toList]

theorem decomposes_nestedBody : Decomposes (lines nestedBody.toList) nestedSegments := by
  have hlines : lines nestedBody.toList =
      ["Nit:\r\n".toList, "```suggestion\r\n".toList, " let x; \r\n".toList, "\r\n".toList,
        "```suggestion\r\n".toList, " ```\r\n".toList] := by decide
  rw [hlines]
  exact .plain (by decide) (@Decomposes.fence _ _
    [" let x; \r\n".toList, "\r\n".toList, "```suggestion\r\n".toList] _ _
    (by decide) (by decide) (by decide) .nil)

/-- What comes behind a body that closes its fences may be rewritten by itself, even if it starts
with a closing line. Behind an open fence it may not. -/
theorem rewriteFences_normal_nestedBody :
    ClosesFences nestedBody ∧
      rewriteFences (nestedBody ++ "```\nend") =
        rewriteFences nestedBody ++ rewriteFences "```\nend" ∧
      rewriteFences nestedBody = "Nit:\r\nRewrite to `let x; ```suggestion`\r\n" ∧
      rewriteFences ("```suggestion\n" ++ "```\nend") ≠
        rewriteFences "```suggestion\n" ++ rewriteFences "```\nend" := by
  have hcloses : ClosesFences nestedBody := by
    intro segments hsegments
    rw [hsegments.unique decomposes_nestedBody]
    simp [nestedSegments]
  refine ⟨hcloses, rewriteFences_normal.2 _ _ (.inr ?_) hcloses, by decide +kernel,
    by decide +kernel⟩
  exact ⟨"Nit:\r\n```suggestion\r\n let x; \r\n\r\n```suggestion\r\n ```\r", by decide⟩

end CodeReview.Report
