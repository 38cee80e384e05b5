import CodeReview.Digest
import CodeReview.Proofs.Collection.Account
import CodeReview.Proofs.Digest.Detection
import CodeReview.Proofs.Payload.Shape
import CodeReview.Proofs.Report.Order

/-!
# CodeReview.Proofs.Digest.Balance

The account of a review and its report balance. The report has one section for each comment
that the account counts, and every thread that was seen is accounted for: it is left out for one
of three reasons, or something is collected from it.

On a page that is one comment for each thread. In a payload it is one for each message, so there
the threads from which something is collected are counted on their own (`Payload.contributing`).
-/

namespace CodeReview

/-! ### Threads of a page -/

namespace ReviewPage

open Html

variable {ι : Type} (page : Page ι)

theorem fate_cases (thread : ι) :
    fate page thread = .resolved ∨ fate page thread = .unlocated ∨ fate page thread = .empty ∨
      ∃ comment, fate page thread = .kept [comment] := by
  unfold fate
  split
  · exact .inl rfl
  · split
    · exact .inr (.inl rfl)
    · dsimp only
      split
      · exact .inr (.inr (.inl rfl))
      · split
        · exact .inr (.inl rfl)
        · exact .inr (.inr (.inr ⟨_, rfl⟩))

theorem length_comments_fate (thread : ι) :
    (fate page thread).comments.length = if (fate page thread).isFruitful then 1 else 0 := by
  rcases fate_cases page thread with h | h | h | ⟨comment, h⟩ <;> rw [h] <;> rfl

theorem tally_collect_balances :
    (collect page).tally.seen = (collect page).tally.resolved + (collect page).tally.unlocated +
      (collect page).tally.empty + (collect page).tally.emitted := by
  have hkept : .kept [] ∉ (threads page).map (fate page) := by
    rw [List.mem_map]
    rintro ⟨thread, -, h⟩
    rcases fate_cases page thread with h' | h' | h' | ⟨comment, h'⟩ <;> cases h.symm.trans h'
  -- One comment for each fruitful thread, so comments and threads are as many.
  have hemitted : (((threads page).map (fate page)).flatMap Fate.comments).length =
      ((threads page).map (fate page)).countP Fate.isFruitful := by
    induction threads page with
    | nil => rfl
    | cons thread threads ih =>
      rw [List.map_cons, List.flatMap_cons, List.length_append, ih, length_comments_fate,
        List.countP_cons, Nat.add_comm]
  rw [collect, Collected.tally_ofFates]
  simp only [Tally.ofFates]
  rw [hemitted]
  exact Fate.length_eq_counts hkept

end ReviewPage

/-! ### Threads of a payload -/

theorem Thread.fate_cases (places : PlaceTable) (thread : Thread) :
    thread.fate places = .resolved ∨ thread.fate places = .unlocated ∨
      thread.fate places = .empty ∨
      ∃ place, thread.fate places = .kept (thread.messages.map (Message.comment place)) ∧
        thread.messages ≠ [] := by
  unfold fate
  cases thread.resolved with
  | true => exact .inl rfl
  | false =>
    cases places[thread.id]? with
    | none => exact .inr (.inl rfl)
    | some place =>
      cases thread.messages with
      | nil => exact .inr (.inr (.inl rfl))
      | cons message messages => exact .inr (.inr (.inr ⟨place, rfl, List.cons_ne_nil _ _⟩))

theorem Thread.length_comments_fate {places : PlaceTable} {thread : Thread}
    (h : (thread.fate places).isFruitful = true) :
    (thread.fate places).comments.length = thread.messages.length := by
  rcases thread.fate_cases places with h' | h' | h' | ⟨place, h', -⟩ <;> rw [h'] at h ⊢
  case inr.inr.inr => exact List.length_map _
  all_goals cases h

namespace Payload

variable (payload : Payload)

/-- The threads from which something is collected. -/
def contributing : List Thread :=
  payload.threads.filter fun thread => (thread.fate (placesOf payload.files)).isFruitful

theorem tally_collect_balances :
    payload.collect.tally.seen = payload.threads.length ∧
      payload.collect.tally.seen = payload.collect.tally.resolved +
        payload.collect.tally.unlocated + payload.collect.tally.empty +
        payload.contributing.length ∧
      payload.collect.tally.emitted = (payload.contributing.flatMap (·.messages)).length := by
  have hkept : .kept [] ∉ payload.threads.map (Thread.fate (placesOf payload.files)) := by
    rw [List.mem_map]
    rintro ⟨thread, -, h⟩
    rcases thread.fate_cases (placesOf payload.files) with h' | h' | h' | ⟨place, h', hsome⟩
    case inr.inr.inr =>
      rw [h', Fate.kept.injEq, List.map_eq_nil_iff] at h
      exact hsome h
    all_goals cases h.symm.trans h'
  have hcontributing : payload.contributing.length =
      (payload.threads.map (Thread.fate (placesOf payload.files))).countP Fate.isFruitful := by
    rw [contributing, List.countP_map, List.countP_eq_length_filter]
    rfl
  rw [collect, collectThreads, Collected.tally_ofFates]
  refine ⟨List.length_map _, ?_, ?_⟩
  · rw [hcontributing]
    exact Fate.length_eq_counts hkept
  · simp only [Tally.ofFates]
    rw [← Fate.flatMap_comments_filter, List.filter_map, List.flatMap_map, List.length_flatMap,
      List.length_flatMap]
    refine congrArg List.sum (List.map_congr_left fun thread hthread => ?_)
    exact Thread.length_comments_fate (List.mem_filter.mp hthread).2

end Payload

/-! ### Both -/

namespace Digest

/-- The report on any review has a section for each comment that was collected. -/
theorem sectionCount_ofSource (source : Source) :
    (ofSource source).report.sectionCount = (ofSource source).tally.emitted ∧
      ((ofSource source).report.isEmpty = true ↔ (ofSource source).report.sectionCount = 0) := by
  obtain ⟨fates, hfates⟩ : ∃ fates, source.collect = .ofFates fates := by
    cases source with
    | structured payload => exact ⟨_, rfl⟩
    | markup page => exact ⟨_, rfl⟩
  have hreport : (ofSource source).report =
      .ofCollection (.ofList (fates.flatMap Fate.comments)) := by
    rw [← Collected.comments_ofFates, ← hfates]
    rfl
  have hemitted : (ofSource source).tally.emitted = (fates.flatMap Fate.comments).length := by
    rw [Collected.length_comments_ofFates, ← hfates]
    rfl
  rw [hreport, hemitted, Report.sectionCount_ofCollection_ofList,
    Report.isEmpty_ofCollection_ofList_iff, List.length_eq_zero_iff]
  exact ⟨rfl, Iff.rfl⟩

/-- **The account and the report balance.** The report has one section for each comment that was
collected, and is empty if there is none. In a payload the threads seen are the well-formed ones;
each was left out for one of three reasons, or makes one comment for each of its messages. On a
page each was left out, or makes one comment. -/
theorem ofDocument_balances {document : String} {mode : SourceMode} {digest : Digest}
    (h : ofDocument document mode = .ok digest) :
    digest.report.sectionCount = digest.tally.emitted ∧
      (digest.report.isEmpty = true ↔ digest.report.sectionCount = 0) ∧
      match digest.kind with
      | .structured =>
        ∃ text root body threadFields summaries,
          Source.payloadText? document mode = some text ∧ Json.read text = .ok root ∧
          Decode.HasShape root body threadFields summaries ∧
          digest.tally.seen = threadFields.countP
            (fun (key, value) => (Decode.thread? key value).isSome) ∧
          digest.tally.seen = digest.tally.resolved + digest.tally.unlocated +
            digest.tally.empty +
            (Decode.contents threadFields summaries).payload.contributing.length ∧
          digest.tally.emitted =
            ((Decode.contents threadFields summaries).payload.contributing.flatMap
              (·.messages)).length
      | .markup =>
        digest.tally.seen = digest.tally.resolved + digest.tally.unlocated +
          digest.tally.empty + digest.tally.emitted := by
  obtain ⟨source, hsource, rfl⟩ : ∃ source, Source.ofDocument document mode = .ok source ∧
      ofSource source = digest := by
    unfold ofDocument at h
    cases hsource : Source.ofDocument document mode with
    | error failure =>
      rw [hsource] at h
      cases h
    | ok source =>
      rw [hsource] at h
      exact ⟨source, rfl, Except.ok.inj h⟩
  obtain ⟨hsections, hempty⟩ := sectionCount_ofSource source
  refine ⟨hsections, hempty, ?_⟩
  rcases Source.ofDocument_cases hsource with ⟨text, decoded, htext, hdecoded, rfl⟩ | rfl
  · obtain ⟨root, hroot, hpayload⟩ : ∃ root, Json.read text = .ok root ∧
        Decode.payload? root = .ok decoded := by
      unfold Decode.text? at hdecoded
      split at hdecoded
      case h_1 root hroot => exact ⟨root, hroot, hdecoded⟩
      case h_2 => cases hdecoded
    obtain ⟨body, threadFields, summaries, hshape, rfl⟩ :=
      Decode.payload?_eq_ok_iff.mp hpayload
    obtain ⟨hseen, hbalance, hemitted⟩ :=
      (Decode.contents threadFields summaries).payload.tally_collect_balances
    refine ⟨text, root, body, threadFields, summaries, htext, hroot, hshape, ?_, hbalance,
      hemitted⟩
    refine hseen.trans ?_
    rw [Decode.payload_contents]
    exact List.length_filterMap_eq_countP
  · -- What the page holds does not matter, and must not be computed.
    generalize Html.Page.ofText document = page
    exact ReviewPage.tally_collect_balances page

/-- A document with a thread of two messages and a malformed one, its records written as
arrays. -/
def arrayDocument : String :=
  "\x7b\"threads\": \x7b\"1\": [1, false, [[[], []]]], \"2\": 0\x7d, " ++
    "\"diffSummaries\": [\x7b\"path\": \"a.rs\", \"markersMap\": \x7b\"R5\": [null, [[1]]]\x7d\x7d]\x7d"

/-- What is read of it. -/
def arrayPayload : Payload where
  threads := [⟨"1", some "1", false, [⟨none, none, none, none⟩, ⟨none, none, none, none⟩]⟩]
  files := [⟨"a.rs", [⟨"R5", none, [⟨"1", none, none, none⟩]⟩], []⟩]

/-- Its account and its report balance. -/
theorem ofDocument_balances_arrayDocument :
    ofDocument arrayDocument .auto = .ok (ofPayload arrayPayload) ∧
      (ofPayload arrayPayload).report.sectionCount = (ofPayload arrayPayload).tally.emitted := by
  obtain ⟨hlooks, hread⟩ : Source.looksStructured arrayDocument = true ∧
      (Decode.text? arrayDocument).map (·.payload) = .ok arrayPayload := by
    decide +kernel
  have htext : Source.payloadText? arrayDocument .auto = some arrayDocument := by
    rw [Source.payloadText?, if_neg (by decide), if_pos hlooks]
  have hdigest : ofDocument arrayDocument .auto = .ok (ofPayload arrayPayload) := by
    rw [ofDocument, Source.ofDocument_eq, htext]
    dsimp only
    rw [Source.ofPayloadText]
    cases hdecoded : Decode.text? arrayDocument with
    | error cause =>
      rw [hdecoded] at hread
      cases hread
    | ok decoded =>
      rw [hdecoded] at hread
      rw [← Except.ok.inj hread]
      rfl
  exact ⟨hdigest, (ofDocument_balances hdigest).1⟩

end Digest

end CodeReview
