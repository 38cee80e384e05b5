import CodeReview.Html.Parser

/-!
# CodeReview.Proofs.Html.Script

The text of a script. Nothing in it is a reference and nothing a tag, so without a less-than sign
it goes into the page as it stands, character by character, up to the end tag
(`Parser.run_script`). Only the ends of its lines have been changed before, as everywhere.
-/

namespace CodeReview.Html

/-! ### Open scripts -/

namespace Builder

/-- A script is open, with number `id`, and its text is being read. -/
structure InScript (b : Builder) (id : Nat) : Prop where
  mode : b.mode = .inText
  current : b.stack.head? = some ⟨id, .html, "script"⟩
  keepsNewline : b.skipsNewline = false

variable {b : Builder} {id : Nat}

namespace InScript

theorem onArena (h : b.InScript id) (change : Arena → Arena) : (b.onArena change).InScript id :=
  ⟨h.mode, h.current, h.keepsNewline⟩

/-- Every token is one of its text. -/
theorem rule_eq (h : b.InScript id) (token : Token) : b.rule token = b.textRule token := by
  obtain ⟨outer, houter⟩ := List.head?_eq_some_iff.mp h.current
  have hforeign : b.isForeign token = false := by
    rw [isForeign, houter]
    rfl
  rw [rule, hforeign, modeRule, h.mode]
  rfl

theorem addText (h : b.InScript id) (c : Char) :
    b.addText c = b.onArena (·.appendChar id c) := by
  obtain ⟨outer, houter⟩ := List.head?_eq_some_iff.mp h.current
  have hhere : b.here = .inside id := by
    rw [here, houter]
    have hplace : OpenElement.isIn ⟨id, .html, "script"⟩ fosterParents = false := rfl
    simp only [target, hplace, Bool.and_false]
    rfl
  rw [Builder.addText, hhere]

theorem process_char (h : b.InScript id) (c : Char) :
    b.process (.char c) = (b.onArena (·.appendChar id c), none) := by
  refine process_char_of_done h.keepsNewline ?_
  rw [h.rule_eq, ← h.addText]
  rfl

theorem process_close (h : b.InScript id) (name : String) :
    b.process (.close name) = (b.pop.into b.outerMode, none) := by
  unfold process
  dsimp only
  rw [keep_eq h.keepsNewline]
  refine applyRules_of_done ?_
  rw [h.rule_eq]
  rfl

end InScript

end Builder

/-! ### Reading -/

namespace Parser

variable {b : Builder} {id : Nat}

/-- The text of a script goes into it as it stands. -/
theorem run_text (h : b.InScript id) {text : List Char} (hless : '<' ∉ text)
    (hnull : '\x00' ∉ text) :
    (⟨.text (.script .plain), b, false⟩ : Parser).run text =
      ⟨.text (.script .plain), b.onArena (text.foldl (·.appendChar id ·)), false⟩ := by
  induction text generalizing b with
  | nil => rfl
  | cons c text ih =>
    rw [List.mem_cons, not_or] at hless hnull
    have hvisible : Lexer.visible c = c := if_neg (Ne.symm hnull.1)
    have hlexer (foreign : Bool) : (Lexer.text (.script .plain)).step foreign c =
        (.text (.script .plain), [.char c]) := by
      simp only [Lexer.step, Lexer.stepText, Lexer.stepScript, if_neg (Ne.symm hless.1), hvisible]
    have hstep : (⟨.text (.script .plain), b, false⟩ : Parser).step c =
        ⟨.text (.script .plain), b.onArena (·.appendChar id c), false⟩ := by
      simp only [step, Bool.false_and, hlexer, List.foldl_cons, List.foldl_nil, take,
        h.process_char]
      simp [endsScript]
    rw [run_cons, hstep, ih (h.onArena _) hless.2 hnull.2]
    rfl

/-- The end tag of a script closes it. -/
theorem run_endTag (h : b.InScript id) :
    (⟨.text (.script .plain), b, false⟩ : Parser).run "</script>".toList =
      ⟨.text .markup, b.pop.into b.outerMode, true⟩ := by
  have htag : (⟨.text (.script .plain), b, false⟩ : Parser).run "</script".toList =
      ⟨.endName (.script .plain) "tpircs".toList, b, false⟩ := rfl
  have hclose : (⟨.endName (.script .plain) "tpircs".toList, b, false⟩ : Parser).step '>' =
      (⟨.text .markup, b, false⟩ : Parser).take (.close "script") := rfl
  have hends : endsScript b (.close "script") = true := by
    rw [endsScript, h.mode]
    rfl
  rw [show "</script>".toList = "</script".toList ++ ['>'] from rfl, run_append, htag, run_cons,
    hclose, run_nil, take, h.process_close, hends]

/-- **A script holds the text between its tags**, if there is no less-than sign in it. -/
theorem run_script (h : b.InScript id) {text : List Char} (hless : '<' ∉ text)
    (hnull : '\x00' ∉ text) :
    (⟨.text (.script .plain), b, false⟩ : Parser).run (text ++ "</script>".toList) =
      ⟨.text .markup,
        ((b.onArena (text.foldl (·.appendChar id ·))).pop.into b.outerMode), true⟩ := by
  rw [run_append, run_text h hless hnull, run_endTag (h.onArena _)]
  rfl

end Parser

end CodeReview.Html
