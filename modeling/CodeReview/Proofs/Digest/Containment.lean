import CodeReview.Proofs.Digest.Conservation
import CodeReview.Proofs.Payload.Damage
import CodeReview.Proofs.Places.Locality
import CodeReview.Proofs.Report.Groups

/-!
# CodeReview.Proofs.Digest.Containment

How far damage in a payload reaches. Two payloads that are equal except at one place are read
alike up to what stands there, and what stands there is nothing to anyone else: a thread bears on
its own comments only, a marker entry or a diff line on the threads it refers to only. Each of
the two payloads is compared with the one in which the place is left out.

To speak of the comments of the other threads, comments are labelled with the key of their thread.
-/

namespace CodeReview

open Json

/-! ### Threads -/

/-- The comments that are collected from a payload, each with the key of its thread. -/
def Payload.keyedRecords (payload : Payload) : List (String × Comment) :=
  payload.threads.flatMap fun thread =>
    (thread.fate (placesOf payload.files)).comments.map (thread.key, ·)

theorem Payload.map_snd_keyedRecords (payload : Payload) :
    payload.keyedRecords.map Prod.snd = payload.records := by
  rw [payload.records_eq_flatMap_fate, keyedRecords, List.map_flatMap]
  simp only [List.map_map, Function.comp_def, List.map_id']

/-- The thread is resolved, has no place (by the id that it states, else by its key), or says
nothing. -/
def Thread.isDropped (places : PlaceTable) (thread : Thread) : Bool :=
  thread.resolved || places[thread.ownId.getD thread.key]?.isNone || thread.messages.isEmpty

theorem Thread.comments_fate_of_isDropped {places : PlaceTable} {thread : Thread}
    (h : thread.isDropped places = true) : (thread.fate places).comments = [] := by
  rw [isDropped, Bool.or_eq_true, Bool.or_eq_true] at h
  rw [Thread.comments_fate]
  rcases h with (hresolved | hplace) | hmessages
  · rw [if_pos hresolved]
  · rw [Option.isNone_iff_eq_none] at hplace
    simp [hplace]
  · rw [List.isEmpty_iff] at hmessages
    simp [hmessages]

theorem Decode.key_of_thread? {key : String} {value : Value} {thread : Thread}
    (h : Decode.thread? key value = some thread) : thread.key = key := by
  simp only [Decode.thread?, Option.bind_eq_bind, Option.bind_eq_some_iff, Option.pure_def,
    Option.some.injEq] at h
  obtain ⟨_, _, _, _, _, _, _, _, rfl⟩ := h
  rfl

section Threads

variable (front back : List Thread) (files : List FileDiff) {thread : Option Thread}

/-- A thread leaves the comments of the other threads as they are. -/
theorem filter_keyedRecords {key : String} (h : ∀ given ∈ thread, given.key = key) :
    (Payload.keyedRecords ⟨front ++ thread.toList ++ back, files⟩).filter (·.1 ≠ key) =
      (Payload.keyedRecords ⟨front ++ back, files⟩).filter (·.1 ≠ key) := by
  cases thread with
  | none => rw [Option.toList_none, List.append_nil]
  | some given =>
    have hown : ((given.fate (placesOf files)).comments.map (given.key, ·)).filter
        (fun record => decide (record.1 ≠ key)) = [] := by
      rw [h given rfl, List.filter_eq_nil_iff]
      simp
    simp only [Payload.keyedRecords, Option.toList_some, List.flatMap_append,
      List.flatMap_singleton, List.filter_append, hown, List.append_nil]

/-- A thread that is dropped may as well be absent. -/
theorem records_of_isDropped (h : ∀ given ∈ thread, given.isDropped (placesOf files) = true) :
    Payload.records ⟨front ++ thread.toList ++ back, files⟩ =
      Payload.records ⟨front ++ back, files⟩ := by
  cases thread with
  | none => rw [Option.toList_none, List.append_nil]
  | some given =>
    simp only [Payload.records_eq_flatMap_fate, Option.toList_some, List.flatMap_append,
      List.flatMap_singleton, Thread.comments_fate_of_isDropped (h given rfl), List.append_nil]

end Threads

/-! ### Damage -/

namespace Decode

variable {old new root other : Value} {decoded damaged : Decoded} {wrapper : List Step}

section

variable (hwrapper : wrapper = [] ∨ wrapper = [.field "payload"])
  (h : payload? root = .ok decoded) (h' : payload? other = .ok damaged)
include hwrapper h h'

theorem filter_keyedRecords_of_differAt {key : String}
    (hdiffer : DifferAt old new (wrapper ++ [.field "threads", .field key]) root other) :
    decoded.payload.keyedRecords.filter (·.1 ≠ key) =
      damaged.payload.keyedRecords.filter (·.1 ≠ key) := by
  rcases payload?_of_differAt_thread hwrapper hdiffer h h' with
    rfl | ⟨front, back, files, hdecoded, hdamaged⟩
  · rfl
  · rw [hdecoded, hdamaged,
      filter_keyedRecords front back files fun _ hgiven => key_of_thread? hgiven,
      filter_keyedRecords front back files fun _ hgiven => key_of_thread? hgiven]

theorem report_of_differAt {key : String}
    (hdiffer : DifferAt old new (wrapper ++ [.field "threads", .field key]) root other)
    (hold : ∀ thread ∈ thread? key old, thread.isDropped (placesOf decoded.payload.files) = true)
    (hnew : ∀ thread ∈ thread? key new, thread.isDropped (placesOf damaged.payload.files) = true) :
    (Digest.ofPayload decoded.payload).report = (Digest.ofPayload damaged.payload).report := by
  rcases payload?_of_differAt_thread hwrapper hdiffer h h' with
    rfl | ⟨front, back, files, hdecoded, hdamaged⟩
  · rfl
  · rw [hdecoded] at hold
    rw [hdamaged] at hnew
    rw [Digest.report_ofPayload, Digest.report_ofPayload, hdecoded, hdamaged,
      records_of_isDropped front back files hold, records_of_isDropped front back files hnew]

theorem getElem?_placesOf_of_differAt_marker {index : Nat} {marker : String}
    (hdiffer : DifferAt old new (wrapper ++
      [.field "diffSummaries", .item index, .field "markersMap", .field marker]) root other)
    {id : ThreadId} (hold : ∀ entry ∈ marker? marker old, id ∉ entry.threads)
    (hnew : ∀ entry ∈ marker? marker new, id ∉ entry.threads) :
    (placesOf decoded.payload.files)[id]? = (placesOf damaged.payload.files)[id]? := by
  rcases payload?_of_differAt_file hwrapper hdiffer h h' with
    rfl | ⟨value, value', front, back, hfile, hdecoded, hdamaged⟩
  · rfl
  · rw [hdecoded, hdamaged]
    rcases file_of_differAt_marker hfile with
      hsame | ⟨path, before, after, lines, hkept, hkept'⟩
    · rw [hsame]
    · rw [hkept, hkept', ← List.append_cons, ← List.append_cons,
        getElem?_placesOf_marker hold, getElem?_placesOf_marker hnew]

theorem getElem?_placesOf_of_differAt_line {index line : Nat}
    (hdiffer : DifferAt old new (wrapper ++
      [.field "diffSummaries", .item index, .field "diffLines", .item line]) root other)
    {id : ThreadId} (hold : ∀ entry ∈ diffLine? old, id ∉ entry.threads)
    (hnew : ∀ entry ∈ diffLine? new, id ∉ entry.threads) :
    (placesOf decoded.payload.files)[id]? = (placesOf damaged.payload.files)[id]? := by
  rcases payload?_of_differAt_file hwrapper hdiffer h h' with
    rfl | ⟨value, value', front, back, hfile, hdecoded, hdamaged⟩
  · rfl
  · rw [hdecoded, hdamaged]
    rcases file_of_differAt_line hfile with
      hsame | ⟨path, markers, before, after, hkept, hkept'⟩
    · rw [hsame]
    · rw [hkept, hkept', ← List.append_cons, ← List.append_cons,
        getElem?_placesOf_line hold, getElem?_placesOf_line hnew]

/-- **Damage is contained.** Let two payloads be equal except at one place. If that is a thread,
the comments of all other threads are the same and stand in the same order in each file of the
report; and if the thread is dropped from both, the reports are equal. If it is a marker entry or
a diff line, every thread to which neither version refers has the same place, or none, in both.
A version that is malformed is no thread, and refers to none. -/
theorem payload?_contains_damage :
    (∀ key, DifferAt old new (wrapper ++ [.field "threads", .field key]) root other →
      decoded.payload.keyedRecords.filter (·.1 ≠ key) =
          damaged.payload.keyedRecords.filter (·.1 ≠ key) ∧
        (∀ path,
          (Digest.ofPayload decoded.payload).report.on path =
              (labelledOn path decoded.payload.keyedRecords).map Prod.snd ∧
            (Digest.ofPayload damaged.payload).report.on path =
              (labelledOn path damaged.payload.keyedRecords).map Prod.snd ∧
            (labelledOn path decoded.payload.keyedRecords).filter (·.1 ≠ key) =
              (labelledOn path damaged.payload.keyedRecords).filter (·.1 ≠ key)) ∧
        ((∀ thread ∈ thread? key old,
            thread.isDropped (placesOf decoded.payload.files) = true) →
          (∀ thread ∈ thread? key new,
            thread.isDropped (placesOf damaged.payload.files) = true) →
          (Digest.ofPayload decoded.payload).report =
            (Digest.ofPayload damaged.payload).report)) ∧
    (∀ index marker,
      DifferAt old new (wrapper ++
        [.field "diffSummaries", .item index, .field "markersMap", .field marker]) root other →
      ∀ id, (∀ entry ∈ marker? marker old, id ∉ entry.threads) →
        (∀ entry ∈ marker? marker new, id ∉ entry.threads) →
        (placesOf decoded.payload.files)[id]? = (placesOf damaged.payload.files)[id]?) ∧
    (∀ index line,
      DifferAt old new (wrapper ++
        [.field "diffSummaries", .item index, .field "diffLines", .item line]) root other →
      ∀ id, (∀ entry ∈ diffLine? old, id ∉ entry.threads) →
        (∀ entry ∈ diffLine? new, id ∉ entry.threads) →
        (placesOf decoded.payload.files)[id]? = (placesOf damaged.payload.files)[id]?) := by
  refine ⟨fun key hdiffer => ?_, fun index marker hdiffer id hold hnew => ?_,
    fun index line hdiffer id hold hnew => ?_⟩
  · -- The sorting by files needs nothing but that the records agree.
    have hrecords := filter_keyedRecords_of_differAt hwrapper h h' hdiffer
    refine ⟨hrecords, fun path => ⟨?_, ?_, filter_labelledOn_eq hrecords path⟩,
      report_of_differAt hwrapper h h' hdiffer⟩
    · rw [map_snd_labelledOn, Payload.map_snd_keyedRecords, Digest.report_ofPayload]
    · rw [map_snd_labelledOn, Payload.map_snd_keyedRecords, Digest.report_ofPayload]
  · exact getElem?_placesOf_of_differAt_marker hwrapper h h' hdiffer hold hnew
  · exact getElem?_placesOf_of_differAt_line hwrapper h h' hdiffer hold hnew

end

/-- A thread of one message. -/
def plainThread : Value :=
  .object [("commentsData", .object [("comments", .array [.object []])])]

/-- A payload with a plain thread and another one, both at a marker. -/
def withThread (thread : Value) : Value :=
  let references : List Value := [.object [("id", .string "1")], .object [("id", .string "2")]]
  let entry : Value := .object [("threads", .array references)]
  .object
    [("threads", .object [("1", plainThread), ("2", thread)]),
      ("diffSummaries", .array
        [.object [("path", .string "a.rs"), ("markersMap", .object [("R5", entry)])]])]

/-- It makes no difference whether the other thread is malformed or resolved. -/
theorem payload?_contains_damage_withThread :
    ∃ decoded damaged,
      payload? (withThread (.bool true)) = .ok decoded ∧
        payload? (withThread (.object [("isResolved", .bool true)])) = .ok damaged ∧
        (Digest.ofPayload decoded.payload).report = (Digest.ofPayload damaged.payload).report := by
  obtain ⟨decoded, hdecoded⟩ : ∃ decoded, payload? (withThread (.bool true)) = .ok decoded :=
    ⟨_, rfl⟩
  obtain ⟨damaged, hdamaged⟩ : ∃ damaged,
      payload? (withThread (.object [("isResolved", .bool true)])) = .ok damaged := ⟨_, rfl⟩
  have hthreads : "threads" ∉ ([] : Fields).map Prod.fst := by decide
  have hsecond : "2" ∉ [("1", plainThread)].map Prod.fst := by decide
  have hthread := (payload?_contains_damage (.inl rfl) hdecoded hdamaged).1 "2"
    (.field hthreads (.field hsecond .here))
  refine ⟨decoded, damaged, hdecoded, hdamaged, hthread.2.2 ?_ ?_⟩
  · intro thread hmalformed
    cases hmalformed
  · rintro thread ⟨⟩
    rfl

end Decode

end CodeReview
