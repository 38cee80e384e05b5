import CodeReview.Text.Pieces

/-!
# CodeReview.Proofs.Text.Pieces

The pieces of a text between the occurrences of a character, and of texts that are put together
with the character between them.
-/

namespace CodeReview.Text

theorem pieces_eq_splitOn (mark : Char) (cs : List Char) : pieces mark cs = cs.splitOn mark := by
  induction cs with
  | nil => rfl
  | cons c cs ih =>
    rw [List.splitOn_eq_splitOnP] at ih ⊢
    rw [List.splitOnP_cons_eq_if_modifyHead, ← ih]
    obtain ⟨piece, rest, hcons⟩ := List.exists_cons_of_ne_nil (pieces_ne_nil mark cs)
    by_cases hc : c = mark <;> simp [pieces, hcons, hc]

theorem pieces_append_cons (mark : Char) (first second : List Char) :
    pieces mark (first ++ mark :: second) = pieces mark first ++ pieces mark second := by
  simp only [pieces_eq_splitOn, List.splitOn]
  exact List.splitOnP_append_cons first second (by simp)

/-- Joined texts fall apart into the pieces of each. -/
theorem pieces_intercalate {mark : Char} {parts : List (List Char)} (hne : parts ≠ []) :
    pieces mark ([mark].intercalate parts) = parts.flatMap (pieces mark) := by
  induction parts with
  | nil => exact absurd rfl hne
  | cons part parts ih =>
    cases parts with
    | nil => simp [List.intercalate]
    | cons next rest =>
      have hrest := ih (List.cons_ne_nil _ _)
      rw [List.intercalate_cons_cons, List.append_assoc, List.singleton_append,
        pieces_append_cons, hrest]
      simp

theorem pieces_of_notMem {mark : Char} {cs : List Char} (h : mark ∉ cs) :
    pieces mark cs = [cs] := by
  rw [pieces_eq_splitOn, List.splitOn_eq_splitOnP]
  refine List.splitOnP_eq_singleton ?_
  intro c hc
  rw [beq_eq_false_iff_ne]
  rintro rfl
  exact h hc

/-- The pieces of a text are those that make it up, each but the first behind the mark. -/
theorem pieces_eq_cons_iff {mark : Char} {cs first : List Char} {rest : List (List Char)} :
    pieces mark cs = first :: rest ↔
      mark ∉ first ∧ (∀ piece ∈ rest, mark ∉ piece) ∧ cs = first ++ rest.flatMap (mark :: ·) := by
  constructor
  · intro h
    induction cs generalizing first rest with
    | nil =>
      obtain ⟨rfl, rfl⟩ := List.cons.inj h
      simp
    | cons c cs ih =>
      obtain ⟨piece, others, hcons⟩ := List.exists_cons_of_ne_nil (pieces_ne_nil mark cs)
      obtain ⟨hpiece, hothers, hcs⟩ := ih hcons
      by_cases hc : c = mark
      · rw [pieces, if_pos hc, hcons] at h
        obtain ⟨rfl, rfl⟩ := List.cons.inj h
        refine ⟨List.not_mem_nil, List.forall_mem_cons.mpr ⟨hpiece, hothers⟩, ?_⟩
        simp [hc, hcs]
      · simp only [pieces, if_neg hc, hcons] at h
        obtain ⟨rfl, rfl⟩ := List.cons.inj h
        refine ⟨?_, hothers, by simp [hcs]⟩
        simp [hpiece, Ne.symm hc]
  · rintro ⟨hfirst, hrest, rfl⟩
    induction rest generalizing first with
    | nil => simpa using pieces_of_notMem hfirst
    | cons piece rest ih =>
      obtain ⟨hpiece, hrest⟩ := List.forall_mem_cons.mp hrest
      rw [List.flatMap_cons, List.cons_append, pieces_append_cons, pieces_of_notMem hfirst,
        ih hpiece hrest, List.singleton_append]

theorem flatMap_pieces_of_notMem {mark : Char} {texts : List String}
    (h : ∀ text ∈ texts, mark ∉ text.toList) :
    texts.flatMap (pieces mark ·.toList) = texts.map String.toList := by
  induction texts with
  | nil => rfl
  | cons text texts ih =>
    simp only [List.mem_cons, forall_eq_or_imp] at h
    simp [pieces_of_notMem h.1, ih h.2]

theorem length_pieces (mark : Char) (cs : List Char) :
    (pieces mark cs).length = cs.count mark + 1 := by
  induction cs with
  | nil => rfl
  | cons c cs ih =>
    obtain ⟨piece, rest, hcons⟩ := List.exists_cons_of_ne_nil (pieces_ne_nil mark cs)
    rw [hcons] at ih
    by_cases hc : c = mark
    · simpa [pieces, hc, hcons] using ih
    · simpa [pieces, hc, hcons] using ih

end CodeReview.Text
