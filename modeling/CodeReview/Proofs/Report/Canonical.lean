import CodeReview.Proofs.Report.Groups
import CodeReview.Report.Render

/-!
# CodeReview.Proofs.Report.Canonical

What a report forgets of the comments it is made of: in which order those of different paths or
different lines came, and nothing else. Two sequences of comments make one report exactly if the
comments of each path and line are the same in both, in the same order.

Such are all sequences that take the comments of several lists in turn, where no two of the lists
speak of one line of one file (`Interleaved`).
-/

namespace CodeReview

open Text (LineNumber)

/-! ### Comments of one place -/

/-- The comments on a path that start on a line, in order. -/
def commentsAt (path : String) (line : LineNumber) (comments : List Comment) : List Comment :=
  comments.filter fun comment => comment.path = path ∧ comment.startLine = line

theorem filter_commentsOn (path : String) (line : LineNumber) (comments : List Comment) :
    (commentsOn path comments).filter (·.startLine = line) =
      commentsAt path line comments := by
  rw [commentsOn, List.filter_filter, commentsAt]
  refine List.filter_congr fun comment _ => ?_
  rw [← Bool.decide_and, decide_eq_decide]
  exact and_comm

theorem mem_firstPaths_iff_commentsAt {path : String} {comments : List Comment} :
    path ∈ firstPaths comments ↔ ∃ line, commentsAt path line comments ≠ [] := by
  rw [mem_firstPaths]
  constructor
  · rintro ⟨comment, hmem, hpath⟩
    refine ⟨comment.startLine, List.ne_nil_of_mem (a := comment) ?_⟩
    exact List.mem_filter.mpr ⟨hmem, decide_eq_true ⟨hpath, rfl⟩⟩
  · rintro ⟨line, hne⟩
    obtain ⟨comment, hmem⟩ := List.exists_mem_of_ne_nil _ hne
    obtain ⟨hmem, hplace⟩ := List.mem_filter.mp hmem
    exact ⟨comment, hmem, (of_decide_eq_true hplace).1⟩

/-! ### Reports -/

namespace Report

variable {comments others : List Comment}

/-- What a report holds on a path tells in which order the comments of each line came. -/
theorem filter_on (comments : List Comment) (path : String) (line : LineNumber) :
    ((ofCollection (.ofList comments)).on path).filter (·.startLine = line) =
      commentsAt path line comments := by
  rw [(stablySorted_on comments path).stable line, filter_commentsOn]

theorem sorted_commentsOn_eq
    (h : ∀ path line, commentsAt path line comments = commentsAt path line others)
    (path : String) :
    FileComments.sorted ⟨path, commentsOn path comments⟩ =
      FileComments.sorted ⟨path, commentsOn path others⟩ := by
  have hcomments := FileComments.stablySorted_sorted ⟨path, commentsOn path comments⟩
  have hothers := FileComments.stablySorted_sorted ⟨path, commentsOn path others⟩
  have hsame := eq_of_filter_key_eq hcomments.ordered hothers.ordered fun line => by
    rw [hcomments.stable line, hothers.stable line, filter_commentsOn, filter_commentsOn, h]
  exact congrArg (FileComments.mk path) hsame

/-- The order of the comments of each place decides about the report. -/
theorem ofCollection_eq_of_commentsAt_eq
    (h : ∀ path line, commentsAt path line comments = commentsAt path line others) :
    ofCollection (.ofList comments) = ofCollection (.ofList others) := by
  -- Both reports have the same paths, and on each of them the same comments.
  have hpaths : (firstPaths comments).Perm (firstPaths others) := by
    refine (List.perm_ext_iff_of_nodup (nodup_firstPaths _) (nodup_firstPaths _)).mpr fun path => ?_
    rw [mem_firstPaths_iff_commentsAt, mem_firstPaths_iff_commentsAt]
    simp only [h]
  have hfiles : ((firstPaths comments).map fun path =>
      FileComments.sorted ⟨path, commentsOn path comments⟩).Perm
        ((firstPaths others).map fun path =>
          FileComments.sorted ⟨path, commentsOn path others⟩) := by
    simp only [sorted_commentsOn_eq h]
    exact hpaths.map _
  have hperm := ((files_ofCollection_ofList_perm comments).trans hfiles).trans
    (files_ofCollection_ofList_perm others).symm
  -- Of these files there is one arrangement in which the paths ascend.
  have hascends (comments : List Comment) :
      (ofCollection (.ofList comments)).files.Pairwise fun a b => a.path < b.path :=
    List.pairwise_map.mp (pairwise_path_files comments)
  have hsame := hperm.eq_of_pairwise
    (fun _ _ _ _ hlt hgt => absurd hgt (String.lt_asymm hlt)) (hascends comments)
    (hascends others)
  exact congrArg Report.mk hsame

end Report

/-! ### Interleaving -/

/-- The comments speak of different files, or start on different lines. -/
def Comment.Apart (comment other : Comment) : Prop :=
  comment.path ≠ other.path ∨ comment.startLine ≠ other.startLine

instance (comment other : Comment) : Decidable (comment.Apart other) :=
  inferInstanceAs (Decidable (_ ∨ _))

/-- The second list takes the elements of the first ones, those of each list in their order. -/
inductive Interleaved {α : Type} : List (List α) → List α → Prop
  | nil {parts : List (List α)} : (∀ part ∈ parts, part = []) → Interleaved parts []
  | take {before after : List (List α)} {part merged : List α} {a : α} :
      Interleaved (before ++ part :: after) merged →
      Interleaved (before ++ (a :: part) :: after) (a :: merged)

theorem flatMap_filter_eq_nil {α : Type} {p : α → Bool} {parts : List (List α)}
    (h : ∀ part ∈ parts, ∀ a ∈ part, p a = false) : parts.flatMap (List.filter p) = [] := by
  rw [List.flatMap_eq_nil_iff]
  intro part hpart
  rw [List.filter_eq_nil_iff]
  intro a ha
  rw [h part hpart a ha]
  exact Bool.false_ne_true

/-- Elements that only one of the lists has keep their order. -/
theorem Interleaved.filter_eq {α : Type} {p : α → Bool} {parts : List (List α)}
    {merged : List α} (h : Interleaved parts merged)
    (hone : parts.Pairwise fun part other => ∀ a ∈ part, ∀ b ∈ other, p a = false ∨ p b = false) :
    merged.filter p = parts.flatMap (List.filter p) := by
  induction h with
  | nil hempty =>
    rw [List.filter_nil, flatMap_filter_eq_nil]
    intro part hpart a ha
    rw [hempty part hpart] at ha
    exact absurd ha List.not_mem_nil
  | @take before after part merged a h ih =>
    obtain ⟨hbefore, hrest, hacross⟩ := List.pairwise_append.mp hone
    obtain ⟨hpart, hafter⟩ := List.pairwise_cons.mp hrest
    have hfiltered := ih <| List.pairwise_append.mpr
      ⟨hbefore, List.pairwise_cons.mpr
        ⟨fun other hother b hb => hpart other hother b (List.mem_cons_of_mem a hb), hafter⟩,
        fun first hfirst other hother b hb c hc => by
          rcases List.mem_cons.mp hother with rfl | hother
          · exact hacross first hfirst (a :: other) List.mem_cons_self b hb c
              (List.mem_cons_of_mem a hc)
          · exact hacross first hfirst other (List.mem_cons_of_mem _ hother) b hb c hc⟩
    cases hp : p a with
    | false =>
      simp only [List.flatMap_append, List.flatMap_cons] at hfiltered ⊢
      rw [List.filter_cons_of_neg (by simp [hp]), List.filter_cons_of_neg (by simp [hp]), hfiltered]
    | true =>
      -- No other list has an element like this one, so those before it give nothing.
      have hnone : before.flatMap (List.filter p) = [] := by
        refine flatMap_filter_eq_nil fun first hfirst b hb => ?_
        have hor := hacross first hfirst (a :: part) List.mem_cons_self b hb a List.mem_cons_self
        rw [hp] at hor
        exact hor.resolve_right (by decide)
      simp only [List.flatMap_append, List.flatMap_cons, hnone, List.nil_append] at hfiltered ⊢
      rw [List.filter_cons_of_pos hp, List.filter_cons_of_pos hp, hfiltered, List.cons_append]

theorem Interleaved.commentsAt_eq {parts : List (List Comment)} {merged : List Comment}
    (h : Interleaved parts merged)
    (hapart : parts.Pairwise fun part other => ∀ a ∈ part, ∀ b ∈ other, a.Apart b)
    (path : String) (line : LineNumber) :
    commentsAt path line merged = parts.flatMap (commentsAt path line) := by
  refine h.filter_eq (hapart.imp fun hpair a ha b hb => ?_)
  rw [decide_eq_false_iff_not, decide_eq_false_iff_not, ← not_and_or]
  rintro ⟨⟨hpath, hline⟩, hpath', hline'⟩
  exact (hpair a ha b hb).elim (fun hne => hne (hpath.trans hpath'.symm))
    fun hne => hne (hline.trans hline'.symm)

/-! ### Which sequences make one report -/

/-- **The report is a canonical form of what was collected.** Two sequences of comments make the
same report exactly if for each path and line they have the same comments in the same order. So
however the comments of different places are interleaved, the text of the report is the same. -/
theorem Report.ofCollection_eq_iff_commentsAt :
    (∀ comments others : List Comment,
      ofCollection (.ofList comments) = ofCollection (.ofList others) ↔
        ∀ path line, commentsAt path line comments = commentsAt path line others) ∧
    (∀ (parts : List (List Comment)) (merged other : List Comment),
      (parts.Pairwise fun part rest => ∀ a ∈ part, ∀ b ∈ rest, a.Apart b) →
      Interleaved parts merged → Interleaved parts other → ∀ style,
        (ofCollection (.ofList merged)).render style =
          (ofCollection (.ofList other)).render style) := by
  constructor
  · refine fun comments others => ⟨fun h path line => ?_, ofCollection_eq_of_commentsAt_eq⟩
    rw [← filter_on comments, ← filter_on others, h]
  · intro parts merged other hapart hmerged hother style
    have hsame : ofCollection (.ofList merged) = ofCollection (.ofList other) := by
      refine ofCollection_eq_of_commentsAt_eq fun path line => ?_
      rw [hmerged.commentsAt_eq hapart, hother.commentsAt_eq hapart]
    rw [hsame]

/-- Two remarks on one line of a file, one on a range of the same file, and one on another file. -/
def remarkParts : List (List Comment) :=
  [[remark "b.rs" (.line 7) "first", remark "b.rs" (.line 7) "second"],
    [remark "b.rs" (.lines ⟨9, 4⟩) "range"], [remark "a.rs" (.line 9) "other"]]

/-- The remarks on the range and on the other file may come last or in between, but the remarks on
one line may not change places. -/
theorem Report.ofCollection_eq_iff_commentsAt_remarkParts :
    (∀ style, (ofCollection (.ofList
        [remark "b.rs" (.line 7) "first", remark "b.rs" (.line 7) "second",
          remark "b.rs" (.lines ⟨9, 4⟩) "range", remark "a.rs" (.line 9) "other"])).render style =
      (ofCollection (.ofList
        [remark "b.rs" (.lines ⟨9, 4⟩) "range", remark "b.rs" (.line 7) "first",
          remark "a.rs" (.line 9) "other", remark "b.rs" (.line 7) "second"])).render style) ∧
    ofCollection (.ofList [remark "b.rs" (.line 7) "first", remark "b.rs" (.line 7) "second"]) ≠
      ofCollection (.ofList [remark "b.rs" (.line 7) "second", remark "b.rs" (.line 7) "first"]) := by
  obtain ⟨hiff, hinterleaved⟩ := ofCollection_eq_iff_commentsAt
  have hnone : Interleaved [[], [], []] ([] : List Comment) := .nil (by simp)
  refine ⟨hinterleaved remarkParts _ _ (by decide) ?_ ?_, fun hsame => ?_⟩
  · refine @Interleaved.take _ [] [_, _] _ _ _ (@Interleaved.take _ [] [_, _] _ _ _ ?_)
    exact @Interleaved.take _ [_] [_] _ _ _ (@Interleaved.take _ [_, _] [] _ _ _ hnone)
  · refine @Interleaved.take _ [_] [_] _ _ _ (@Interleaved.take _ [] [_, _] _ _ _ ?_)
    exact @Interleaved.take _ [_, _] [] _ _ _ (@Interleaved.take _ [] [_, _] _ _ _ hnone)
  · have hplace := (hiff _ _).mp hsame "b.rs" 7
    revert hplace
    decide

end CodeReview
