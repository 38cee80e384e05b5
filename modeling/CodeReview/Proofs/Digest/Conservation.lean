import CodeReview.Digest
import CodeReview.Proofs.Places.Precedence
import CodeReview.Proofs.Report.Order

/-!
# CodeReview.Proofs.Digest.Conservation

What the report on a payload holds. `Payload.records` lists the comments of a payload, in
the order of its threads and of the messages in them, without regard to files; the report
is that list, grouped by path and stably sorted by line, and nothing else. So no comment is
lost, doubled or moved to another file, and what is left out leaves no trace.
-/

namespace CodeReview

/-! ### The comments of a payload -/

/-- The comment of a message in a thread at a place. A suggested change of certain lines
puts the comment on those lines. -/
def Message.record (place : Place) (message : Message) : Comment where
  path := place.path
  anchor :=
    match (Suggestion.ofBody? message.formatted).range with
    | some range => .of none range
    | none => .of place.line place.context
  marker := place.marker
  author := message.author.getD "Unknown"
  body := message.body.getD ""
  change := (Suggestion.ofBody? message.formatted).change
  createdAt := message.createdAt

/-- The comments of the threads that are not resolved and have a place. A thread has the place of
the id that it states, or else of the key that it stands under. -/
def Payload.records (payload : Payload) : List Comment :=
  (payload.threads.filter fun thread => !thread.resolved).flatMap fun thread =>
    (placesOf payload.files)[thread.ownId.getD thread.key]?.toList.flatMap fun place =>
      thread.messages.map (Message.record place)

/-! ### Collecting -/

theorem Message.comment_eq_record (place : Place) (message : Message) :
    message.comment place = message.record place := by
  unfold Message.comment Message.record
  dsimp only
  cases (Suggestion.ofBody? message.formatted).range <;> rfl

/-- What is collected from a thread: nothing if it is resolved or has no place, and else one
comment for each message. -/
theorem Thread.comments_fate (places : PlaceTable) (thread : Thread) :
    (thread.fate places).comments =
      if thread.resolved then []
      else places[thread.ownId.getD thread.key]?.toList.flatMap fun place =>
        thread.messages.map (Message.record place) := by
  unfold Thread.fate Thread.id
  cases thread.resolved with
  | true => rfl
  | false =>
    cases places[thread.ownId.getD thread.key]? with
    | none => rfl
    | some place =>
      have hrecord : Message.record place = Message.comment place :=
        funext fun message => (message.comment_eq_record place).symm
      cases hmessages : thread.messages with
      | nil => simp [Fate.comments]
      | cons message messages => simp [Fate.comments, hrecord]

/-- The records of a payload are what is collected from its threads. -/
theorem Payload.records_eq_flatMap_fate (payload : Payload) :
    payload.records = payload.threads.flatMap fun thread =>
      (thread.fate (placesOf payload.files)).comments := by
  unfold Payload.records
  induction payload.threads with
  | nil => rfl
  | cons thread threads ih =>
    rw [List.flatMap_cons, ← ih, Thread.comments_fate]
    cases hresolved : thread.resolved with
    | true => rw [List.filter_cons_of_neg (by simp [hresolved])]; rfl
    | false => rw [List.filter_cons_of_pos (by simp [hresolved]), List.flatMap_cons]; rfl

/-- The collection of a payload is that of its records. -/
theorem Payload.comments_collect (payload : Payload) :
    payload.collect.comments = .ofList payload.records := by
  rw [payload.records_eq_flatMap_fate, collect, collectThreads, Collected.comments_ofFates,
    List.flatMap_map]

theorem Digest.report_ofPayload (payload : Payload) :
    (ofPayload payload).report = .ofCollection (.ofList payload.records) := by
  rw [← payload.comments_collect]
  rfl

/-! ### The report -/

/-- **No comment is lost, doubled, misplaced or reordered.** The report on a payload has one
file for each path of its records and no other, the paths ascend, and the comments of a file
are the records on its path, stably sorted by the line they start on. Together they are the
records of the payload, each once. -/
theorem ofPayload_report_conserves (payload : Payload) :
    ((Digest.ofPayload payload).report.files.map (·.path)).Pairwise (· < ·) ∧
      (∀ path, path ∈ (Digest.ofPayload payload).report.files.map (·.path) ↔
        ∃ comment ∈ payload.records, comment.path = path) ∧
      (∀ file ∈ (Digest.ofPayload payload).report.files,
        StablySorted Comment.startLine (payload.records.filter (·.path = file.path))
          file.comments) ∧
      ((Digest.ofPayload payload).report.files.flatMap (·.comments)).Perm payload.records := by
  rw [Digest.report_ofPayload]
  exact ⟨Report.pairwise_path_files _, fun _ => Report.mem_map_path_files,
    fun _ => Report.stablySorted_of_mem_files, Report.comments_perm _⟩

/-- A payload with two threads on one file, the later line first, a thread with a suggested
change, a resolved one and one without a place. -/
def mixedPayload : Payload where
  threads :=
    [⟨"late", none, false, [⟨some "octo", some "b", none, none⟩, ⟨none, none, none, none⟩]⟩,
      ⟨"k", some "early", false,
        [⟨none, some "c", some "js-suggested-changes-blob data-line-number=\"7\"", none⟩]⟩,
      ⟨"done", none, true, [⟨none, some "d", none, none⟩]⟩,
      ⟨"lost", none, false, [⟨none, some "e", none, none⟩]⟩]
  files :=
    [⟨"a.rs",
      [⟨"R50", some ⟨50, 50⟩, [⟨"late", none, none, none⟩, ⟨"done", none, none, none⟩]⟩,
        ⟨"R5", none, [⟨"early", none, none, none⟩]⟩], []⟩]

/-- Its report has the file. The comment with the suggested change comes first, on the line of the
change, and the place of the thread is that of the id that it states. -/
theorem ofPayload_report_conserves_mixedPayload :
    ∃ file ∈ (Digest.ofPayload mixedPayload).report.files, file.path = "a.rs" ∧
      file.comments =
        [⟨"a.rs", .line 7, some "R5", "Unknown", "c", none, none⟩,
          ⟨"a.rs", .line 50, some "R50", "octo", "b", none, none⟩,
          ⟨"a.rs", .line 50, some "R50", "Unknown", "", none, none⟩] := by
  obtain ⟨-, hpaths, hsorted, -⟩ := ofPayload_report_conserves mixedPayload
  have hrecords : mixedPayload.records =
      [⟨"a.rs", .line 50, some "R50", "octo", "b", none, none⟩,
        ⟨"a.rs", .line 50, some "R50", "Unknown", "", none, none⟩,
        ⟨"a.rs", .line 7, some "R5", "Unknown", "c", none, none⟩] := by
    simp only [Payload.records, getElem?_placesOf]
    decide +kernel
  have hrecord : ∃ comment ∈ mixedPayload.records, comment.path = "a.rs" := by
    rw [hrecords]
    decide
  obtain ⟨file, hfile, hpath⟩ := List.mem_map.mp ((hpaths "a.rs").mpr hrecord)
  have hfilesorted := hsorted file hfile
  rw [hpath, hrecords] at hfilesorted
  refine ⟨file, hfile, hpath, hfilesorted.unique (.of_forall_mem ?_ ?_ ?_)⟩
  · decide
  · decide
  · decide

end CodeReview
