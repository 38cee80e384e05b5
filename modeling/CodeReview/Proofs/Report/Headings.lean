import CodeReview.Proofs.Report.Labels
import CodeReview.Proofs.Report.NormalForm
import Mathlib.Algebra.GroupWithZero.Nat

/-!
# CodeReview.Proofs.Report.Headings

How many lines of the text of a report look like headings of sections: one for each section,
those in the bodies that are shown, and those behind a newline in the title, in the path of a
section and in a line of a change.

The count goes over the seams of the text. What makes a line look like a heading is its start, so
it cannot come from two pieces that meet at a character that headings do not start with
(`laterHeadings_append_cons`), and all pieces of the text meet at newlines or at a colon.
-/

namespace CodeReview.Report

open Text

/-- The line starts like the heading of a section. -/
def startsHeading (line : List Char) : Bool := "## ".toList.isPrefixOf line

/-- The number of lines of a text that start like a heading. -/
def headings (text : List Char) : Nat := (lines text).countP startsHeading

/-- The number of lines behind the first one that do. -/
def laterHeadings (text : List Char) : Nat := (lines text).tail.countP startsHeading

/-! ### Starts of lines -/

/-- A pattern does not reach beyond a character that it lacks. -/
theorem isPrefixOf_append_cons {pattern : List Char} {c : Char} (hc : c ∉ pattern)
    (first second : List Char) :
    pattern.isPrefixOf (first ++ c :: second) = pattern.isPrefixOf first := by
  induction pattern generalizing first with
  | nil => simp
  | cons p pattern ih =>
    simp only [List.mem_cons, not_or] at hc
    cases first with
    | nil => simp [List.isPrefixOf, Ne.symm hc.1]
    | cons d first => simp [List.isPrefixOf, ih hc.2]

theorem startsHeading_append_cons {c : Char} (hc : c ∉ "## ".toList) (first second : List Char) :
    startsHeading (first ++ c :: second) = startsHeading first :=
  isPrefixOf_append_cons hc first second

@[simp] theorem laterHeadings_nil : laterHeadings [] = 0 := rfl

@[simp] theorem headings_nil : headings [] = 0 := rfl

theorem laterHeadings_newline (text : List Char) :
    laterHeadings ('\n' :: text) = headings text := by
  simp [laterHeadings, headings, lines_newline]

theorem laterHeadings_cons {c : Char} (hc : c ≠ '\n') (text : List Char) :
    laterHeadings (c :: text) = laterHeadings text := by
  unfold laterHeadings
  cases hlines : lines text <;> simp [lines, hc, hlines]

/-- The first line of a text starts as the text does. -/
theorem headings_eq (text : List Char) :
    headings text = (if startsHeading text then 1 else 0) + laterHeadings text := by
  have hcut := cut_lines text
  have hflatten := flatten_lines text
  unfold headings laterHeadings
  generalize lines text = cut at hcut hflatten
  subst hflatten
  cases hcut with
  | nil => simp [startsHeading]
  | last _ _ => simp [List.countP_cons]
  | @line stem rest _ _ =>
    have hfirst : startsHeading (stem ++ ['\n']) = startsHeading stem :=
      startsHeading_append_cons (by decide) stem []
    have hall : startsHeading (stem ++ '\n' :: rest.flatten) = startsHeading stem :=
      startsHeading_append_cons (by decide) stem _
    simp [List.countP_cons, hfirst, hall, Nat.add_comm]

/-! ### Seams -/

/-- Headings do not arise where a piece of text starts with a character that they lack. -/
theorem laterHeadings_append_cons {c : Char} (hc : c ∉ "## ".toList)
    (first second : List Char) :
    laterHeadings (first ++ c :: second) = laterHeadings first + laterHeadings (c :: second) := by
  induction first with
  | nil => simp
  | cons d first ih =>
    by_cases hd : d = '\n'
    · subst hd
      simp only [List.cons_append, laterHeadings_newline, headings_eq,
        startsHeading_append_cons hc, ih]
      omega
    · simp only [List.cons_append, laterHeadings_cons hd, ih]

theorem headings_append_newline (first second : List Char) :
    headings (first ++ '\n' :: second) = headings first + headings second := by
  rw [headings_eq, headings_eq first, startsHeading_append_cons (by decide),
    laterHeadings_append_cons (by decide), laterHeadings_newline]
  omega

theorem laterHeadings_of_notMem {text : List Char} (h : '\n' ∉ text) : laterHeadings text = 0 := by
  induction text with
  | nil => rfl
  | cons c text ih =>
    simp only [List.mem_cons, not_or] at h
    rw [laterHeadings_cons (Ne.symm h.1), ih h.2]

theorem headings_intercalate (parts : List (List Char)) :
    headings (['\n'].intercalate parts) = (parts.map headings).sum := by
  induction parts with
  | nil => rfl
  | cons part parts ih =>
    cases parts with
    | nil => simp [List.intercalate]
    | cons next rest =>
      rw [List.intercalate_cons_cons, List.append_assoc, List.singleton_append,
        headings_append_newline, ih]
      simp

/-! ### Sections -/

theorem headings_heading (path : String) (anchor : Anchor) :
    headings (heading path anchor).toList = 1 + laterHeadings path.toList := by
  have hlist : (heading path anchor).toList =
      '#' :: '#' :: ' ' :: (path.toList ++ ':' :: ' ' :: anchor.label.toList) := by
    simp [heading]
  have hlabel : laterHeadings (':' :: ' ' :: anchor.label.toList) = 0 :=
    laterHeadings_of_notMem (by simp [Anchor.notMem_label])
  rw [hlist, headings_eq, laterHeadings_cons (by decide), laterHeadings_cons (by decide),
    laterHeadings_cons (by decide), laterHeadings_append_cons (by decide), hlabel]
  simp [startsHeading]

/-- Behind its sign a line of a change starts no heading. -/
theorem headings_signed {sign : Char} (hsign : sign ≠ '\n') (line : List Char) :
    headings (sign :: ' ' :: line) = laterHeadings line := by
  rw [headings_eq, laterHeadings_cons hsign, laterHeadings_cons (by decide)]
  simp [startsHeading, List.isPrefixOf]

theorem headings_diffText (change : CodeChange) :
    headings change.diffText.toList =
      (change.lines.map fun line => laterHeadings line.toList).sum := by
  rw [CodeChange.toList_diffText, headings_intercalate]
  simp [CodeChange.signedLines, CodeChange.lines, Function.comp_def, headings_signed]

/-! ### The sections of a report -/

/-- The comments of a report in order, each with the path that its section names. -/
def entries (report : Report) : List (String × Comment) :=
  report.files.flatMap fun file => file.comments.map fun comment => (file.path, comment)

/-- The bodies that the sections of the given comments show. -/
def plainBodies (style : Style) (entries : List (String × Comment)) : List String :=
  entries.flatMap fun (_, comment) =>
    match comment.change with
    | some _ => []
    | none => [shownBody style comment.body]

/-- The lines of the changes that the sections of the given comments show. -/
def changedLines (entries : List (String × Comment)) : List String :=
  entries.flatMap fun (_, comment) =>
    match comment.change with
    | some change => change.lines
    | none => []

/-- What is counted in each of some texts, added up. -/
def total (count : List Char → Nat) (texts : List String) : Nat :=
  (texts.map fun text => count text.toList).sum

theorem total_eq_zero {count : List Char → Nat} {texts : List String}
    (h : ∀ text ∈ texts, count text.toList = 0) : total count texts = 0 := by
  rw [total, List.sum_eq_zero_iff_forall_eq_nat]
  simpa using h

theorem headings_content (style : Style) (path : String) (comment : Comment) :
    headings (content style comment).toList =
      total headings (plainBodies style [(path, comment)]) +
        total laterHeadings (changedLines [(path, comment)]) := by
  cases hchange : comment.change with
  | none => simp [content, hchange, plainBodies, changedLines, total]
  | some change =>
    have hlist : (content style comment).toList =
        "```diff".toList ++ '\n' :: (change.diffText.toList ++ '\n' :: "```".toList) := by
      simp [content, hchange]
    have hopening : headings "```diff".toList = 0 := by decide
    have hclosing : headings "```".toList = 0 := by decide
    rw [hlist, headings_append_newline, headings_append_newline, headings_diffText, hopening,
      hclosing]
    simp [hchange, plainBodies, changedLines, total]

theorem headings_sectionText (style : Style) (path : String) (comment : Comment)
    (rest : List Char) :
    headings ((sectionText style path comment).toList ++ rest) =
      1 + laterHeadings path.toList + headings (content style comment).toList +
        headings rest := by
  have hlist : (sectionText style path comment).toList ++ rest =
      (heading path comment.anchor).toList ++ '\n' :: ([] ++ '\n' ::
        ((content style comment).toList ++ '\n' :: ([] ++ '\n' ::
          ("---".toList ++ '\n' :: ([] ++ '\n' :: rest))))) := by
    simp [sectionText]
  have hrule : headings "---".toList = 0 := by decide
  rw [hlist]
  simp only [headings_append_newline, headings_heading, headings_nil, hrule]
  omega

theorem headings_sections (style : Style) (entries : List (String × Comment)) :
    headings (entries.flatMap fun (path, comment) => (sectionText style path comment).toList) =
      entries.length + total laterHeadings (entries.map (·.1)) +
        total headings (plainBodies style entries) + total laterHeadings (changedLines entries) := by
  induction entries with
  | nil => rfl
  | cons entry entries ih =>
    obtain ⟨path, comment⟩ := entry
    rw [List.flatMap_cons, headings_sectionText, ih, headings_content style path]
    simp only [plainBodies, changedLines, total, List.flatMap_cons, List.flatMap_nil,
      List.append_nil, List.map_append, List.sum_append, List.map_cons, List.sum_cons,
      List.length_cons]
    omega

theorem toList_render (style : Style) (report : Report) :
    (render style report).toList =
      "# ".toList ++ style.title.toList ++ '\n' :: '\n' ::
        report.entries.flatMap fun (path, comment) => (sectionText style path comment).toList := by
  simp [render, fileText, entries, String.toList_join, List.flatMap_map, List.flatMap_assoc]

/-! ### Rewritten bodies -/

theorem countP_startsHeading_le {lines : List (List Char)} {segments : List Segment}
    (h : Decomposes lines segments) :
    (segments.flatMap Segment.shownLines).countP startsHeading ≤ lines.countP startsHeading := by
  induction h with
  | nil => simp
  | plain _ _ ih => simpa [Segment.shownLines, List.countP_cons] using ih
  | @fence opening closing inner lines segments _ _ _ _ ih =>
    have hinstruction : startsHeading (instruction inner ++ terminator closing) = false := by
      obtain ⟨c, rest, hcons, hc⟩ := instruction_eq_cons inner
      rw [hcons]
      rcases hc with rfl | rfl <;> simp [startsHeading, List.isPrefixOf]
    simp only [List.flatMap_cons, Segment.shownLines, List.singleton_append, List.countP_cons,
      List.countP_append, hinstruction]
    simp
    omega
  | unclosed => simp [Segment.shownLines]

/-- Rewriting suggestions makes no heading. -/
theorem headings_shownBody_le (style : Style) (body : String) :
    headings (shownBody style body).toList ≤ headings body.toList := by
  unfold shownBody
  split
  · obtain ⟨segments, hsegments⟩ := exists_decomposes (lines body.toList)
    rw [headings, lines_rewriteFences hsegments]
    exact countP_startsHeading_le hsegments
  · exact Nat.le_refl _

/-- **The headings of a report are accounted for.** Of the lines of its text those start like a
heading that are the first lines of its sections, those that do in the bodies it shows, and those
that do behind a newline of the title, of the path of a section, and of a line of a change that
is shown. So there are as many of them as sections if none of these texts has any. A body that
has none has none when it is shown. -/
theorem headings_render (style : Style) (report : Report) :
    headings (render style report).toList =
        report.sectionCount + total headings (plainBodies style report.entries) +
          laterHeadings style.title.toList + total laterHeadings (report.entries.map (·.1)) +
          total laterHeadings (changedLines report.entries) ∧
      ((∀ body ∈ plainBodies style report.entries, headings body.toList = 0) →
        (∀ text ∈ style.title :: report.entries.map (·.1) ++ changedLines report.entries,
          laterHeadings text.toList = 0) →
        headings (render style report).toList = report.sectionCount) ∧
      ∀ body, headings (shownBody style body).toList ≤ headings body.toList := by
  have hcount : headings (render style report).toList =
      report.sectionCount + total headings (plainBodies style report.entries) +
        laterHeadings style.title.toList + total laterHeadings (report.entries.map (·.1)) +
        total laterHeadings (changedLines report.entries) := by
    have htitle : headings ("# ".toList ++ style.title.toList) =
        laterHeadings style.title.toList := by
      simp [headings_eq, startsHeading, List.isPrefixOf, laterHeadings_cons]
    have hsections : report.entries.length = report.sectionCount := by
      simp [entries, sectionCount, List.length_flatMap]
    rw [toList_render, headings_append_newline, ← List.nil_append ('\n' :: _),
      headings_append_newline, headings_sections, htitle, hsections, headings_nil]
    omega
  refine ⟨hcount, ?_, headings_shownBody_le style⟩
  intro hbodies htexts
  have hpaths : total laterHeadings (report.entries.map (·.1)) = 0 := by
    refine total_eq_zero fun text htext => htexts text ?_
    simp only [List.cons_append, List.mem_cons, List.mem_append]
    exact .inr (.inl htext)
  have hlines : total laterHeadings (changedLines report.entries) = 0 := by
    refine total_eq_zero fun text htext => htexts text ?_
    simp only [List.cons_append, List.mem_cons, List.mem_append]
    exact .inr (.inr htext)
  have htitle := htexts style.title (by simp)
  have hplain := total_eq_zero hbodies
  omega

/-- A report on one file with the given path: a comment with the given body, and one that takes
out the given line. -/
def reportOf (path body line : String) : Report :=
  let comment : Comment :=
    ⟨path, .line 3, none, unknownAuthor, body, none, none⟩
  ⟨[⟨path, [comment, { comment with change := some ⟨[line], []⟩ }]⟩]⟩

/-- Lines that fall short of a heading do not count, also where more text follows at once. Lines
that look like one count, but for the first ones of title, path and change, and those in a
suggestion. -/
theorem headings_render_shortOfHeading :
    headings (render ⟨"## T\n##", true⟩ (reportOf "## a\n##" "#\n##" "## x\n##")).toList = 2 ∧
      headings (render ⟨"## T\n## t", true⟩
        (reportOf "## a\n## b" "## c\n```suggestion\n## d\n```" "## x\n## y")).toList = 7 := by
  constructor
  · exact (headings_render ⟨"## T\n##", true⟩ (reportOf "## a\n##" "#\n##" "## x\n##")).2.1
      (by decide +kernel) (by decide +kernel)
  · exact (headings_render _ _).1.trans (by decide +kernel)

end CodeReview.Report
