import CodeReview.Proofs.Digest.Detection
import CodeReview.Proofs.Html.Laying
import CodeReview.Proofs.Html.Script
import CodeReview.Proofs.Json.Accepted
import CodeReview.Proofs.Payload.Shape
import CodeReview.Proofs.ReviewPage.Mirror

/-!
# CodeReview.Proofs.Digest.Embedding

A payload is read from a script as it is read by itself (`Digest.ofDocument_embedded`).

On the way through a page a text changes only where its lines end, which a text that is read as
JSON has outside its strings alone (`Json.read_normalizeNewlines`). The rest is about the page:
the tags before the text open a script, the characters of the text gather in it, and the tags
behind the text leave it as it is. What is built that way is a tree that can be written down
(`Embedding.nodes`), and its answers are those of the tree.
-/

namespace CodeReview

open Html

/-! ### The page -/

namespace Embedding

/-- What stands before the payload. -/
def opening : String :=
  "<html><head></head><body>" ++
    "<script type=\"application/json\" data-target=\"react-app.embeddedData\">"

/-- What stands behind its script. -/
def closing : String := "</body></html>"

/-- The page that holds a payload in a script, and nothing else. -/
def page (text : String) : String := opening ++ text ++ "</script>" ++ closing

/-- The trees of the page, given what the script holds. -/
def nodes (script : List Node) : List Node :=
  [.element "html" [] [
    .element "head" [] [],
    .element "body" [] [
      .element "script"
        [("type", "application/json"), ("data-target", "react-app.embeddedData")] script]]]

/-! #### Tags -/

/-- The builder in the script. -/
def builder (arena : Arena) : Builder where
  arena := arena
  mode := .inText
  outerMode := .inBody
  stack := [⟨4, .html, "script"⟩, ⟨3, .html, "body"⟩, ⟨1, .html, "html"⟩]
  head := some ⟨2, .html, "head"⟩
  framesAllowed := false
  outdated := true

theorem inScript_builder (arena : Arena) : (builder arena).InScript 4 := ⟨rfl, rfl, rfl⟩

-- The tags are known to the last letter, so reading them is a computation.
set_option maxRecDepth 100000 in
theorem run_opening :
    ({ builder := .forPage } : Parser).run opening.toList =
      ⟨.text (.script .plain), builder (.ofNodes (nodes [])), false⟩ := by
  rfl

/-- The builder behind the script. -/
def outside (arena : Arena) (mode : Mode) : Builder := (builder arena).pop.into mode

theorem run_endOfBody (arena : Arena) :
    (⟨.text .markup, outside arena .inBody, true⟩ : Parser).run "</body>".toList =
      ⟨.text .markup, outside arena .afterBody, false⟩ := by
  rfl

theorem run_endOfPage (arena : Arena) :
    (⟨.text .markup, outside arena .afterBody, false⟩ : Parser).run "</html>".toList =
      ⟨.text .markup, outside arena .afterAfterBody, false⟩ := by
  rfl

theorem finish_endOfPage (arena : Arena) :
    (⟨.text .markup, outside arena .afterAfterBody, false⟩ : Parser).finish =
      outside arena .afterAfterBody := rfl

theorem finish_run_closing (arena : Arena) :
    ((⟨.text .markup, outside arena .inBody, true⟩ : Parser).run closing.toList).finish.arena =
      arena := by
  rw [show closing.toList = "</body>".toList ++ "</html>".toList from rfl, Parser.run_append,
    run_endOfBody, run_endOfPage, finish_endOfPage]
  rfl

/-! #### Text -/

/-- The page with a text in its script, last character first. -/
def holding (letters : List Char) : Arena :=
  (Arena.ofNodes (nodes [.text ""])).update 5 fun cell => { cell with kind := .text letters }

theorem holding_reverse (text : List Char) :
    holding text.reverse = .ofNodes (nodes [.text (String.ofList text)]) := by
  have hholding (content : String) :
      holding content.toList.reverse = .ofNodes (nodes [.text content]) := rfl
  rw [← hholding, String.toList_ofList]

theorem appendChar_nodes (c : Char) :
    (Arena.ofNodes (nodes [])).appendChar 4 c = holding [c] := rfl

theorem appendChar_holding (letters : List Char) (c : Char) :
    (holding letters).appendChar 4 c = holding (c :: letters) := rfl

theorem foldl_appendChar_holding (letters text : List Char) :
    text.foldl (·.appendChar 4 ·) (holding letters) = holding (text.reverse ++ letters) := by
  induction text generalizing letters with
  | nil => rfl
  | cons c text ih =>
    rw [List.foldl_cons, appendChar_holding, ih, List.reverse_cons, List.append_assoc]
    rfl

/-- The characters of a text gather in one node, which the first of them makes. -/
theorem foldl_appendChar_nodes {text : List Char} (h : text ≠ []) :
    text.foldl (·.appendChar 4 ·) (Arena.ofNodes (nodes [])) =
      .ofNodes (nodes [.text (String.ofList text)]) := by
  cases text with
  | nil => exact absurd rfl h
  | cons c text =>
    rw [List.foldl_cons, appendChar_nodes, foldl_appendChar_holding, ← holding_reverse,
      List.reverse_cons]

theorem toList_page (text : String) :
    (page text).toList =
      opening.toList ++ (text.toList ++ ("</script>".toList ++ closing.toList)) := by
  simp only [page, String.toList_append, List.append_assoc]

/-- A tag is no beginning of a payload. -/
theorem looksStructured_page (text : String) : Source.looksStructured (page text) = false := by
  rw [Source.looksStructured, toList_page]
  rfl

/-- Only the text of the payload has ends of lines. -/
theorem normalizeNewlines_page (text : String) :
    normalizeNewlines (page text).toList =
      opening.toList ++ ((normalizeNewlines text.toList ++ "</script>".toList) ++
        closing.toList) := by
  have hend : normalizeNewlines ("</script>".toList ++ closing.toList) =
      "</script>".toList ++ closing.toList := normalizeNewlines_of_notMem (by decide)
  rw [toList_page, normalizeNewlines_append_of_notMem (by decide),
    normalizeNewlines_append (by decide), hend, List.append_assoc]

/-- **The page is read as its trees**, with the ends of lines changed in the text. -/
theorem arena_page {text : String} (hless : '<' ∉ text.toList) (hnull : '\x00' ∉ text.toList)
    (hne : normalizeNewlines text.toList ≠ []) :
    (Builder.forPage.read (page text)).arena =
      .ofNodes (nodes [.text (String.ofList (normalizeNewlines text.toList))]) := by
  -- Changing the ends of lines makes neither a less-than sign nor a null character.
  have hnotMem {c : Char} (hnewline : c ≠ '\n') (hc : c ∉ text.toList) :
      c ∉ normalizeNewlines text.toList := fun hmem =>
    (mem_of_mem_normalizeNewlines hmem).elim hc hnewline
  have hscript := Parser.run_script (inScript_builder (.ofNodes (nodes [])))
    (hnotMem (by decide) hless) (hnotMem (by decide) hnull)
  have hbuilder (arena : Arena) (change : Arena → Arena) :
      ((builder arena).onArena change).pop.into (builder arena).outerMode =
        outside (change arena) .inBody := rfl
  rw [Builder.read, normalizeNewlines_page, Parser.run_append, run_opening, Parser.run_append,
    hscript, hbuilder, finish_run_closing, foldl_appendChar_nodes hne]

/-- **The payload in the page is the text**, with the ends of lines changed. -/
theorem payloadText?_page {text : String} (hless : '<' ∉ text.toList)
    (hnull : '\x00' ∉ text.toList) (hne : normalizeNewlines text.toList ≠ []) :
    ReviewPage.payloadText? (Page.ofText (page text)) =
      some (String.ofList (normalizeNewlines text.toList)) := by
  have hheld (content : String) :
      ReviewPage.payloadText? (Node.pageOf (nodes [.text content])) = some content := by
    have hscript : ReviewPage.payloadText? (Node.pageOf (nodes [.text content])) =
        some (String.ofList (content.toList ++ [])) := rfl
    rw [hscript, List.append_nil, String.ofList_toList]
  rw [Page.ofText, arena_page hless hnull hne,
    ReviewPage.payloadText?_of_mirrors (Arena.holds_ofNodes _).mirrors, hheld]

end Embedding

/-! ### Payloads -/

namespace Decode

theorem text?_normalizeNewlines {text : String} {decoded : Decoded}
    (h : text? text = .ok decoded) :
    text? (String.ofList (normalizeNewlines text.toList)) = .ok decoded := by
  obtain ⟨root, hroot, hpayload⟩ := text?_eq_ok_iff.mp h
  exact text?_eq_ok_iff.mpr ⟨root, Json.read_normalizeNewlines hroot, hpayload⟩

end Decode

/-- **A payload in a page is read like the payload alone.** A text without a less-than sign that
is read as a payload may stand by itself or in the script of a page: unless markup is asked for,
both documents make the same report, with the same account of the threads. -/
theorem Digest.ofDocument_embedded {text : String} {decoded : Decode.Decoded}
    {mode : SourceMode} (hless : '<' ∉ text.toList) (htext : Decode.text? text = .ok decoded)
    (hmode : mode ≠ .markup) :
    ∃ digest : Digest, digest.kind = .structured ∧ ofDocument text mode = .ok digest ∧
      ofDocument (Embedding.page text) mode = .ok digest := by
  obtain ⟨root, hroot, -⟩ := Decode.text?_eq_ok_iff.mp htext
  have hnormalized := Decode.text?_normalizeNewlines htext
  have hne : normalizeNewlines text.toList ≠ [] := by
    intro hnil
    rw [hnil] at hnormalized
    cases hnormalized
  have halone : Source.payloadText? text mode = some text := by
    rw [Source.payloadText?, if_neg hmode, if_pos (Source.looksStructured_of_text? htext)]
  have hembedded : Source.payloadText? (Embedding.page text) mode =
      some (String.ofList (normalizeNewlines text.toList)) := by
    rw [Source.payloadText?, if_neg hmode, Embedding.looksStructured_page,
      if_neg Bool.false_ne_true,
      Embedding.payloadText?_page hless (Json.null_notMem_of_read hroot) hne]
  exact ⟨ofPayload decoded.payload, rfl, ofDocument_of_payloadText? halone htext,
    ofDocument_of_payloadText? hembedded hnormalized⟩

/-- A payload over several lines, whose ends differ. The message of its thread holds a less-than
sign, written as an escape, and what is a reference in a page outside scripts. -/
def linedPayload : String :=
  "\r\n\x7b\"diffSummaries\": [],\r\"threads\": \x7b\"1\":\n\x7b\"commentsData\": " ++
    "[[\x7b\"body\": \"\\u003cb>&amp;\"\x7d]]\x7d\x7d\x7d\r"

/-- It is read from a page as it is read alone. -/
theorem Digest.ofDocument_embedded_linedPayload :
    ∃ digest : Digest, digest.kind = .structured ∧
      ofDocument linedPayload .auto = .ok digest ∧
      ofDocument (Embedding.page linedPayload) .auto = .ok digest := by
  have htext : Decode.text? linedPayload =
      .ok ⟨⟨[⟨"1", none, false, [⟨none, some "<b>&amp;", none, none⟩]⟩], []⟩, []⟩ := rfl
  exact ofDocument_embedded (by decide) htext (by decide)

end CodeReview
