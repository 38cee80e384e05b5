import CodeReview.Digest
import CodeReview.Proofs.Json.Accepted
import CodeReview.Proofs.Payload.Shape

/-!
# CodeReview.Proofs.Digest.Detection

Which review is found in a document. The text of a payload comes first, where one is looked for
(`Source.payloadText?`); what it says is final, and only without one the markup is asked.

So a run that asks for nothing in particular finds what a run that asks for a payload finds, and
what one that asks for markup finds where there is no payload.
-/

namespace CodeReview

theorem Digest.ofDocument_eq_ok_iff {document : String} {mode : SourceMode} {digest : Digest} :
    ofDocument document mode = .ok digest ↔
      ∃ source, Source.ofDocument document mode = .ok source ∧ digest = ofSource source := by
  unfold ofDocument
  cases Source.ofDocument document mode <;> simp [Except.map, eq_comm]

theorem Digest.ofDocument_eq_error_iff {document : String} {mode : SourceMode}
    {failure : Failure} :
    ofDocument document mode = .error failure ↔
      Source.ofDocument document mode = .error failure := by
  unfold ofDocument
  cases Source.ofDocument document mode <;> simp [Except.map]

namespace Source

/-- The text of the payload that is read for a document: the document itself if it looks like
one, else the first script of the page that holds one. -/
def payloadText? (document : String) (mode : SourceMode) : Option String :=
  if mode = .markup then none
  else if looksStructured document then some document
  else ReviewPage.payloadText? (Html.Page.ofText document)

/-- **Which review is found.** A text of a payload decides alone what becomes of the document.
Without one the markup is read, unless a payload is asked for. -/
theorem ofDocument_eq (document : String) (mode : SourceMode) :
    ofDocument document mode =
      match payloadText? document mode with
      | some text => ofPayloadText text
      | none =>
        match mode with
        | .auto => ofMarkup (Html.Page.ofText document) .noReview
        | .structured => .error (.page .noPayload)
        | .markup => ofMarkup (Html.Page.ofText document) .noThreads := by
  unfold ofDocument payloadText? ofPage
  generalize Html.Page.ofText document = page
  generalize ReviewPage.payloadText? page = script
  cases looksStructured document <;> cases mode <;> cases script <;> rfl

theorem ofDocument_of_payloadText? {document text : String} {mode : SourceMode}
    (h : payloadText? document mode = some text) :
    ofDocument document mode = ofPayloadText text := by
  rw [ofDocument_eq, h]

theorem ofDocument_markup (document : String) :
    ofDocument document .markup = ofMarkup (Html.Page.ofText document) .noThreads :=
  ofDocument_eq document .markup

theorem ofMarkup_eq_ok_iff {page : Html.Page Nat} {otherwise : PageFailure} {source : Source} :
    ofMarkup page otherwise = .ok source ↔
      ReviewPage.hasThreads page = true ∧ source = .markup page := by
  unfold ofMarkup
  cases ReviewPage.hasThreads page <;> simp [eq_comm]

theorem ofPayloadText_eq_ok_iff {text : String} {source : Source} :
    ofPayloadText text = .ok source ↔
      ∃ decoded, Decode.text? text = .ok decoded ∧ source = .structured decoded.payload := by
  unfold ofPayloadText
  cases Decode.text? text <;> simp [eq_comm]

theorem ofPayloadText_eq_error {text : String} {failure : Failure}
    (h : ofPayloadText text = .error failure) : ∃ cause, failure = .payload cause := by
  unfold ofPayloadText at h
  cases hdecoded : Decode.text? text with
  | ok decoded =>
    rw [hdecoded] at h
    cases h
  | error cause =>
    rw [hdecoded] at h
    exact ⟨cause, (Except.error.inj h).symm⟩

theorem ofMarkup_eq_error {page : Html.Page Nat} {otherwise : PageFailure} {failure : Failure}
    (h : ofMarkup page otherwise = .error failure) : failure = .page otherwise := by
  unfold ofMarkup at h
  split at h
  · cases h
  · exact (Except.error.inj h).symm

/-- A review that is found is the payload of its text, or the markup of the page. -/
theorem ofDocument_cases {document : String} {mode : SourceMode} {source : Source}
    (h : ofDocument document mode = .ok source) :
    (∃ text decoded, payloadText? document mode = some text ∧ Decode.text? text = .ok decoded ∧
        source = .structured decoded.payload) ∨
      source = .markup (Html.Page.ofText document) := by
  rw [ofDocument_eq] at h
  cases htext : payloadText? document mode with
  | some text =>
    rw [htext] at h
    obtain ⟨decoded, hdecoded, hsource⟩ := ofPayloadText_eq_ok_iff.mp h
    exact .inl ⟨text, decoded, rfl, hdecoded, hsource⟩
  | none =>
    rw [htext] at h
    cases mode with
    | auto => exact .inr (ofMarkup_eq_ok_iff.mp h).2
    | structured => cases h
    | markup => exact .inr (ofMarkup_eq_ok_iff.mp h).2

theorem isMalformedInput_of_ofDocument_eq_error {document : String} {mode : SourceMode}
    {failure : Failure} (h : ofDocument document mode = .error failure) :
    failure.isMalformedInput = true := by
  rw [ofDocument_eq] at h
  cases htext : payloadText? document mode with
  | some text =>
    rw [htext] at h
    obtain ⟨cause, rfl⟩ := ofPayloadText_eq_error h
    rfl
  | none =>
    rw [htext] at h
    cases mode with
    | auto =>
      obtain rfl := ofMarkup_eq_error h
      rfl
    | structured =>
      obtain rfl := Except.error.inj h
      rfl
    | markup =>
      obtain rfl := ofMarkup_eq_error h
      rfl

/-! ### Texts of payloads -/

/-- A text that is read as an object looks like a payload. -/
theorem looksStructured_of_read {text : String} {fields : Json.Fields}
    (h : Json.read text = .ok (.object fields)) : looksStructured text = true := by
  have hbrace := Json.State.head?_trimStart_of_run (Json.read_eq_ok_iff.mp h)
  rw [looksStructured, hbrace]
  rfl

/-- A text that is read as a payload looks like one. -/
theorem looksStructured_of_text? {text : String} {decoded : Decode.Decoded}
    (h : Decode.text? text = .ok decoded) : looksStructured text = true := by
  obtain ⟨root, hroot, hpayload⟩ := Decode.text?_eq_ok_iff.mp h
  obtain ⟨fields, rfl⟩ := Decode.eq_object_of_payload? hpayload
  exact looksStructured_of_read hroot

theorem payloadText?_of_looksStructured {document : String} {mode : SourceMode}
    (hlooks : looksStructured document = true) (hmode : mode ≠ .markup) :
    payloadText? document mode = some document := by
  rw [payloadText?, if_neg hmode, if_pos hlooks]

/-- Texts of objects that are the same payload, or fail alike, are the same review. -/
theorem ofDocument_eq_of_payload?_eq {text other : String} {fields rest : Json.Fields}
    {mode : SourceMode} (htext : Json.read text = .ok (.object fields))
    (hother : Json.read other = .ok (.object rest))
    (hsame : Decode.payload? (.object fields) = Decode.payload? (.object rest))
    (hmode : mode ≠ .markup) : ofDocument text mode = ofDocument other mode := by
  rw [ofDocument_of_payloadText?
      (payloadText?_of_looksStructured (looksStructured_of_read htext) hmode),
    ofDocument_of_payloadText?
      (payloadText?_of_looksStructured (looksStructured_of_read hother) hmode),
    ofPayloadText, ofPayloadText, Decode.text?_of_read htext, Decode.text?_of_read hother, hsame]

/-! ### Modes -/

theorem payloadText?_auto (document : String) :
    payloadText? document .auto = payloadText? document .structured := rfl

/-- That a payload is missing is said exactly of the documents without a text of one: whatever is
wrong with a text is said of the text. -/
theorem ofDocument_structured_eq_noPayload_iff {document : String} :
    ofDocument document .structured = .error (.page .noPayload) ↔
      payloadText? document .structured = none := by
  cases htext : payloadText? document .structured with
  | none => simp [ofDocument_eq, htext]
  | some text =>
    simp only [ofDocument_of_payloadText? htext, reduceCtorEq, iff_false]
    intro h
    obtain ⟨cause, hcause⟩ := ofPayloadText_eq_error h
    cases hcause

theorem kind_of_ofDocument_structured {document : String} {source : Source}
    (h : ofDocument document .structured = .ok source) : source.kind = .structured := by
  cases htext : payloadText? document .structured with
  | none =>
    rw [ofDocument_structured_eq_noPayload_iff.mpr htext] at h
    cases h
  | some text =>
    rw [ofDocument_of_payloadText? htext] at h
    obtain ⟨decoded, -, rfl⟩ := ofPayloadText_eq_ok_iff.mp h
    rfl

theorem kind_of_ofDocument_markup {document : String} {source : Source}
    (h : ofDocument document .markup = .ok source) : source.kind = .markup := by
  rw [ofDocument_markup] at h
  obtain ⟨-, rfl⟩ := ofMarkup_eq_ok_iff.mp h
  rfl

/-- A failure as it is called where no form of review was asked for: there the review is missing,
not its threads. -/
def unasked : Failure → Failure
  | .page .noThreads => .page .noReview
  | failure => failure

theorem ofMarkup_noReview (page : Html.Page Nat) :
    ofMarkup page .noReview = (ofMarkup page .noThreads).mapError unasked := by
  unfold ofMarkup
  cases ReviewPage.hasThreads page <;> rfl

/-- **Without a wish, a payload counts and else the markup.** Whatever a payload makes of the
document, a fault included, is final. Only where none is found the markup is read, as it is where
markup is asked for. A form of review that was asked for is never answered with the other one, and
whatever fails, the document is at fault. -/
theorem ofDocument_auto (document : String) :
    (ofDocument document .structured ≠ .error (.page .noPayload) →
        ofDocument document .auto = ofDocument document .structured) ∧
      (ofDocument document .structured = .error (.page .noPayload) →
        ofDocument document .auto = (ofDocument document .markup).mapError unasked) ∧
      (∀ source, ofDocument document .structured = .ok source → source.kind = .structured) ∧
      (∀ source, ofDocument document .markup = .ok source → source.kind = .markup) ∧
      ∀ mode failure, Digest.ofDocument document mode = .error failure →
        failure.isMalformedInput = true := by
  refine ⟨?final, ?missing, fun _ => kind_of_ofDocument_structured,
    fun _ => kind_of_ofDocument_markup, ?faults⟩
  case final =>
    intro h
    rw [ne_eq, ofDocument_structured_eq_noPayload_iff, ← ne_eq, Option.ne_none_iff_exists'] at h
    obtain ⟨text, htext⟩ := h
    rw [ofDocument_of_payloadText? htext]
    exact ofDocument_of_payloadText? htext
  case missing =>
    intro h
    rw [ofDocument_structured_eq_noPayload_iff] at h
    rw [ofDocument_eq, payloadText?_auto, h, ofDocument_markup]
    exact ofMarkup_noReview _
  case faults =>
    intro mode failure h
    exact isMalformedInput_of_ofDocument_eq_error (Digest.ofDocument_eq_error_iff.mp h)

/-- A page with a thread, and with a payload that is no JSON. -/
def brokenPage : String :=
  "<script data-target=react-app.embeddedData>\x7b</script>" ++
    "<p class=review-thread-component>"

/-- It fails for its payload. A page with neither a payload nor a thread fails for the review. -/
theorem ofDocument_auto_brokenPage :
    ofDocument brokenPage .auto = .error (.payload (.json .unfinished)) ∧
      ofDocument "<p>" .auto = .error (.page .noReview) := by
  have hbroken : payloadText? brokenPage .structured = some "\x7b" := by decide +kernel
  have hbare : payloadText? "<p>" .structured = none := by decide +kernel
  have hthreads : ReviewPage.hasThreads (Html.Page.ofText "<p>") = false := by decide +kernel
  constructor
  · rw [(ofDocument_auto _).1, ofDocument_of_payloadText? hbroken]
    · rfl
    · rw [ne_eq, ofDocument_structured_eq_noPayload_iff, hbroken]
      exact Option.some_ne_none _
  · rw [(ofDocument_auto _).2.1 (ofDocument_structured_eq_noPayload_iff.mpr hbare),
      ofDocument_markup]
    simp only [ofMarkup, hthreads]
    rfl

end Source

/-! ### Digests of payloads -/

namespace Digest

theorem ofDocument_of_payloadText? {document text : String} {mode : SourceMode}
    {decoded : Decode.Decoded} (hfound : Source.payloadText? document mode = some text)
    (htext : Decode.text? text = .ok decoded) :
    ofDocument document mode = .ok (ofPayload decoded.payload) := by
  rw [ofDocument, Source.ofDocument_of_payloadText? hfound, Source.ofPayloadText, htext]
  rfl

theorem ofDocument_of_text? {text : String} {mode : SourceMode} {decoded : Decode.Decoded}
    (htext : Decode.text? text = .ok decoded) (hmode : mode ≠ .markup) :
    ofDocument text mode = .ok (ofPayload decoded.payload) :=
  ofDocument_of_payloadText?
    (Source.payloadText?_of_looksStructured (Source.looksStructured_of_text? htext) hmode) htext

end Digest

end CodeReview
