import CodeReview.Proofs.Digest.Detection
import CodeReview.Proofs.Text.Numeral

/-!
# CodeReview.Proofs.Digest.Padding

Blanks before a payload. There are two notions of a blank: any white space of Unicode where a
document is looked at, and four characters where JSON is read (`Json.isSpace`). A document that
looks like a payload behind the former is read with them, so it is read as without them if they
are all of the latter, and is no JSON otherwise.
-/

namespace CodeReview

open Text

/-! ### The reader -/

namespace Json

/-- No value begins with white space, of JSON or not. -/
theorem State.beginValue_of_isBlank {c : Char} (h : isBlank c = true) (stack : List Frame) :
    State.beginValue stack c = .failed := by
  -- Every character that begins a value is none.
  have hne : ∀ d : Char, isBlank d = false → c ≠ d := by
    rintro d hd rfl
    rw [h] at hd
    cases hd
  have hdigit : c.isDigit = false := by
    cases hc : c.isDigit with
    | false => rfl
    | true =>
      rw [isBlank_eq_false_of_isDigit hc] at h
      cases h
  simp only [State.beginValue, if_neg (hne '"' (by decide)), if_neg (hne '[' (by decide)),
    if_neg (hne '\x7b' (by decide)), if_neg (hne 't' (by decide)), if_neg (hne 'f' (by decide)),
    if_neg (hne 'n' (by decide)), if_neg (hne '-' (by decide)), if_neg (hne '0' (by decide)),
    hdigit, Bool.false_eq_true, if_false]

theorem State.step_start_of_isBlank {c : Char} (h : isBlank c = true) :
    State.start.step c = if isSpace c then State.start else .failed := by
  rw [State.start, State.step, State.beginValue_of_isBlank h]

theorem State.run_start_of_isBlank {blanks : List Char} (h : blanks.all isBlank = true) :
    State.start.run blanks = if blanks.all isSpace then State.start else .failed := by
  induction blanks with
  | nil => rfl
  | cons c blanks ih =>
    rw [List.all_cons, Bool.and_eq_true] at h
    obtain ⟨hc, hblanks⟩ := h
    rw [State.run_cons, State.step_start_of_isBlank hc, List.all_cons]
    cases isSpace c with
    | true => exact ih hblanks
    | false => exact State.run_failed blanks

/-- White space before a text does not matter if it is white space of JSON; any other fails. -/
theorem read_append_of_isBlank {blanks : String} (h : blanks.toList.all isBlank = true)
    (text : String) :
    read (blanks ++ text) =
      if blanks.toList.all isSpace then read text else .error .malformed := by
  rw [read, scan, String.toList_append, State.run_append, State.run_start_of_isBlank h]
  cases blanks.toList.all isSpace with
  | true => rfl
  | false =>
    rw [if_neg Bool.false_ne_true, State.run_failed]
    rfl

end Json

/-! ### Detection -/

namespace Source

theorem looksStructured_append_of_isBlank {blanks : String}
    (h : blanks.toList.all isBlank = true) (document : String) :
    looksStructured (blanks ++ document) = looksStructured document := by
  rw [looksStructured, looksStructured, String.toList_append, trimStart, trimStart,
    List.dropWhile_append_of_pos (List.all_eq_true.mp h)]

theorem looksStructured_of_head? {document : String}
    (h : document.toList.head? = some '\x7b') : looksStructured document = true := by
  obtain ⟨rest, hrest⟩ := List.head?_eq_some_iff.mp h
  rw [looksStructured, hrest, trimStart, List.dropWhile_cons_of_neg (by decide)]
  rfl

theorem ofPayloadText_append_of_isBlank {blanks : String}
    (h : blanks.toList.all isBlank = true) (text : String) :
    ofPayloadText (blanks ++ text) =
      if blanks.toList.all Json.isSpace then ofPayloadText text
      else .error (.payload (.json .malformed)) := by
  rw [ofPayloadText, ofPayloadText, Decode.text?, Decode.text?, Json.read_append_of_isBlank h]
  cases blanks.toList.all Json.isSpace with
  | true => rfl
  | false => rfl

/-- **Blanks before a payload.** Where a payload is read at all, blanks before it change nothing
if all of them are white space of JSON. If one of them is not, the document is no JSON, whatever
it would be without them. -/
theorem ofDocument_append_of_isBlank {blanks document : String} {mode : SourceMode}
    (hblanks : blanks.toList.all isBlank = true)
    (hdocument : document.toList.head? = some '\x7b') (hmode : mode ≠ .markup) :
    ofDocument (blanks ++ document) mode =
      if blanks.toList.all Json.isSpace then ofDocument document mode
      else .error (.payload (.json .malformed)) := by
  have htext : ∀ text, looksStructured text = true → ofDocument text mode = ofPayloadText text := by
    intro text hlooks
    refine ofDocument_of_payloadText? ?_
    rw [payloadText?, if_neg hmode, if_pos hlooks]
  have hlooks := looksStructured_of_head? hdocument
  rw [htext document hlooks, htext (blanks ++ document)
    ((looksStructured_append_of_isBlank hblanks document).trans hlooks)]
  exact ofPayloadText_append_of_isBlank hblanks document

/-- A payload that holds nothing. -/
def emptyPayload : String := "\x7b\"threads\": \x7b\x7d, \"diffSummaries\": []\x7d"

/-- It is read behind a line feed and a tab, and not behind a no-break space. -/
theorem ofDocument_append_emptyPayload :
    ofDocument ("\n\t" ++ emptyPayload) .auto = .ok (.structured ⟨[], []⟩) ∧
      ofDocument ("\n\u00a0" ++ emptyPayload) .structured =
        .error (.payload (.json .malformed)) := by
  constructor
  · rw [ofDocument_append_of_isBlank (by decide) (by decide) (by decide)]
    rfl
  · rw [ofDocument_append_of_isBlank (by decide) (by decide) (by decide)]
    rfl

/-- A no-break space before a payload keeps it from being read, although the document still looks
like one. -/
theorem not_ofDocument_append_noBreakSpace :
    isBlank '\u00a0' = true ∧ looksStructured ("\u00a0" ++ emptyPayload) = true ∧
      ofDocument emptyPayload .auto = .ok (.structured ⟨[], []⟩) ∧
      ofDocument ("\u00a0" ++ emptyPayload) .auto = .error (.payload (.json .malformed)) := by
  refine ⟨by decide, by decide, rfl, ?_⟩
  rfl

end Source

end CodeReview
