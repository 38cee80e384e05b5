/-!
# CodeReview.Text.Blank

White space as the Unicode property `White_Space` has it, and trimming by it. The
zero-width space and the byte order mark are not white space.
-/

namespace CodeReview.Text

/-- A white-space character. -/
def isBlank (c : Char) : Bool :=
  let n := c.toNat
  (0x9 ≤ n && n ≤ 0xD) || n == 0x20 || n == 0x85 || n == 0xA0 || n == 0x1680 ||
    (0x2000 ≤ n && n ≤ 0x200A) || n == 0x2028 || n == 0x2029 || n == 0x202F || n == 0x205F ||
    n == 0x3000

/-- Each white-space character of ASCII that the core library knows is a blank. -/
theorem isBlank_of_isWhitespace {c : Char} (h : c.isWhitespace = true) : isBlank c = true := by
  simp only [Char.isWhitespace, Bool.or_eq_true, decide_eq_true_eq] at h
  rcases h with ((rfl | rfl) | rfl) | rfl <;> decide

/-! ### Trimming -/

/-- The text without its leading blanks. -/
def trimStart (cs : List Char) : List Char := cs.dropWhile isBlank

/-- The text without its trailing blanks. -/
def trimEnd (cs : List Char) : List Char := (cs.reverse.dropWhile isBlank).reverse

/-- The text without the blanks at both ends. -/
def trim (cs : List Char) : List Char := trimEnd (trimStart cs)

@[simp] theorem trim_nil : trim [] = [] := rfl

theorem trimStart_eq_self {cs : List Char} (h : ∀ c ∈ cs.head?, isBlank c = false) :
    trimStart cs = cs := by
  cases cs with
  | nil => rfl
  | cons c cs =>
    have hc : isBlank c = false := h c rfl
    rw [trimStart, List.dropWhile_cons_of_neg (by rw [hc]; exact Bool.false_ne_true)]

theorem isBlank_head?_trimStart {cs : List Char} :
    ∀ c ∈ (trimStart cs).head?, isBlank c = false := by
  intro c hc
  have hnot := List.head?_dropWhile_not isBlank cs
  rw [Option.mem_def, trimStart] at hc
  rw [hc] at hnot
  exact hnot

/-- Without its trailing blanks a text begins as before, if anything of it is left. -/
theorem isBlank_head?_trimEnd {cs : List Char} (h : ∀ c ∈ cs.head?, isBlank c = false) :
    ∀ c ∈ (trimEnd cs).head?, isBlank c = false := by
  intro c hc
  have hsplit : cs = trimEnd cs ++ (cs.reverse.takeWhile isBlank).reverse := by
    rw [trimEnd, ← List.reverse_append, List.takeWhile_append_dropWhile, List.reverse_reverse]
  refine h c ?_
  rw [hsplit, List.head?_append, hc]
  rfl

theorem trimEnd_trimEnd (cs : List Char) : trimEnd (trimEnd cs) = trimEnd cs := by
  have hagain : trimStart (trimStart cs.reverse) = trimStart cs.reverse :=
    trimStart_eq_self isBlank_head?_trimStart
  rw [trimEnd, trimEnd, List.reverse_reverse]
  exact congrArg List.reverse hagain

theorem trim_trim (cs : List Char) : trim (trim cs) = trim cs := by
  rw [trim, trim, trimStart_eq_self (isBlank_head?_trimEnd isBlank_head?_trimStart),
    trimEnd_trimEnd]

/-- The string without the blanks at both ends. -/
def trimmed (s : String) : String := String.ofList (trim s.toList)

/-- The trim of a text is its own trim. -/
theorem trimmed_ofList_trim (cs : List Char) :
    trimmed (String.ofList (trim cs)) = String.ofList (trim cs) := by
  rw [trimmed, String.toList_ofList, trim_trim]

/-! ### Words -/

/-- The blank-separated words of a text; `word` holds the letters of the word that is
being read, last first. -/
def wordsFrom (word : List Char) : List Char → List (List Char)
  | [] => if word.isEmpty then [] else [word.reverse]
  | c :: cs =>
    if isBlank c then
      if word.isEmpty then wordsFrom [] cs else word.reverse :: wordsFrom [] cs
    else
      wordsFrom (c :: word) cs

/-- The words of a text: its maximal pieces without blanks. -/
def words (cs : List Char) : List (List Char) := wordsFrom [] cs

end CodeReview.Text
