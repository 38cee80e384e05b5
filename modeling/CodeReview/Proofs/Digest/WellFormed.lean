import CodeReview.Proofs.Digest.Conservation
import CodeReview.Proofs.Digest.Detection
import CodeReview.Proofs.Payload.Omissions

/-!
# CodeReview.Proofs.Digest.WellFormed

What every report is like, whatever document it is made of. Each condition on a comment is
settled where the comment is made: its path where a file summary or a thread of a page is read,
its lines by `Anchor.of`, its change by `CodeChange.of?` from the trimmed texts of cells. A report
only puts comments into order, so what all comments of a review have in common holds of its
report (`Report.wellFormed_ofCollection`).
-/

namespace CodeReview

/-! ### Conditions -/

/-- A change that does something, by lines without blanks at their ends. -/
structure CodeChange.WellFormed (change : CodeChange) : Prop where
  something : change.removed ≠ [] ∨ change.added ≠ []
  trimmed : ∀ line ∈ change.removed ++ change.added, Text.trimmed line = line

/-- A comment on a file that has a name, with a range only if that has two ends. -/
structure Comment.WellFormed (comment : Comment) : Prop where
  path : comment.path ≠ ""
  anchor : ∀ range, comment.anchor = .lines range → range.first ≠ range.last
  change : ∀ change, comment.change = some change → change.WellFormed

/-- What a comment has in each form of a review: in a payload a marker, on a page a body without
blanks at its ends, and neither marker nor time. -/
def Comment.Suits (comment : Comment) : SourceKind → Prop
  | .structured => comment.marker ≠ none
  | .markup => comment.body ≠ "" ∧ Text.trimmed comment.body = comment.body ∧
      comment.marker = none ∧ comment.createdAt = none

/-- A report on files in strictly ascending order, each with comments that are its own and
well-formed. -/
structure Report.WellFormed (report : Report) (kind : SourceKind) : Prop where
  ascending : (report.files.map (·.path)).Pairwise (· < ·)
  path : ∀ file ∈ report.files, file.path ≠ ""
  commented : ∀ file ∈ report.files, file.comments ≠ []
  own : ∀ file ∈ report.files, ∀ comment ∈ file.comments, comment.path = file.path
  comment : ∀ file ∈ report.files, ∀ comment ∈ file.comments,
    comment.WellFormed ∧ comment.Suits kind

/-! ### Parts of a comment -/

theorem Anchor.first_ne_last_of_of {confirmed : Option Text.LineNumber} {given range : LineRange}
    (h : Anchor.of confirmed given = .lines range) : range.first ≠ range.last := by
  unfold Anchor.of at h
  cases confirmed with
  | some number => cases h
  | none =>
    by_cases hsingle : given.isSingle = true
    · simp [hsingle] at h
    · simp only [hsingle, Bool.false_eq_true, if_false, lines.injEq] at h
      subst h
      intro hends
      exact hsingle (beq_iff_eq.mpr hends)

namespace Html.Page

variable {ι : Type} (page : Page ι)

theorem trimmed_trimmedText (element : ι) :
    Text.trimmed (page.trimmedText element) = page.trimmedText element :=
  Text.trimmed_ofList_trim _

end Html.Page

theorem Suggestion.wellFormed_changeOfCells {ι : Type} {page : Html.Page ι} {elements : List ι}
    {change : CodeChange} (h : changeOfCells page elements = some change) :
    change.WellFormed := by
  obtain ⟨rfl, hsomething⟩ := CodeChange.of?_eq_some_iff.mp h
  refine ⟨hsomething, fun line hline => ?_⟩
  rw [← List.map_append, List.mem_map] at hline
  obtain ⟨cell, -, rfl⟩ := hline
  exact page.trimmed_trimmedText cell

theorem Suggestion.wellFormed_change_ofBody? {body : Option String} {change : CodeChange}
    (h : (ofBody? body).change = some change) : change.WellFormed := by
  cases body with
  | none => cases h
  | some body =>
    rw [ofBody?_some, ofBody, change?] at h
    split at h
    · exact wellFormed_changeOfCells h
    · cases h

/-! ### Comments of a page -/

namespace ReviewPage

variable {ι : Type} {page : Html.Page ι} {thread : ι} {comment : Comment}

/-- A comment of a page is made of what is found for its thread. -/
theorem parts_of_mem_comments_fate (h : comment ∈ (fate page thread).comments) :
    path? page thread = some comment.path ∧ anchor? page thread = some comment.anchor ∧
      comment.body = body page thread ∧ comment.body ≠ "" ∧
      comment.change = change? page thread ∧ comment.marker = none ∧
      comment.createdAt = none := by
  unfold fate at h
  split at h
  · cases h
  · cases hpath : path? page thread with
    | none =>
      rw [hpath] at h
      cases h
    | some path =>
      rw [hpath] at h
      dsimp only at h
      split at h
      · cases h
      · next hbody =>
        cases hanchor : anchor? page thread with
        | none =>
          rw [hanchor] at h
          cases h
        | some anchor =>
          rw [hanchor] at h
          obtain rfl := List.mem_singleton.mp h
          exact ⟨rfl, rfl, rfl, hbody, rfl, rfl, rfl⟩

theorem path_ne_of_path? {path : String} (h : path? page thread = some path) : path ≠ "" := by
  have hkept := (Option.filter_eq_some_iff.mp h).2
  exact of_decide_eq_true hkept

theorem first_ne_last_of_anchor? {range : LineRange}
    (h : anchor? page thread = some (.lines range)) : range.first ≠ range.last := by
  unfold anchor? at h
  cases hphrase : phraseRange? (page.chars thread) with
  | some given =>
    rw [hphrase] at h
    exact Anchor.first_ne_last_of_of (Option.some.inj h)
  | none =>
    rw [hphrase] at h
    obtain ⟨line, -, hline⟩ := Option.map_eq_some_iff.mp h
    cases hline

theorem trimmed_body (page : Html.Page ι) (thread : ι) :
    Text.trimmed (body page thread) = body page thread := by
  unfold body textOf?
  cases page.firstOfClass? thread bodyClass with
  | none => rfl
  | some element => exact page.trimmed_trimmedText element

theorem wellFormed_of_mem_comments_fate (h : comment ∈ (fate page thread).comments) :
    comment.WellFormed ∧ comment.Suits .markup := by
  obtain ⟨hpath, hanchor, hbody, hsome, hchange, hmarker, htime⟩ := parts_of_mem_comments_fate h
  refine ⟨⟨path_ne_of_path? hpath, fun range hrange => ?_, fun change hmade => ?_⟩,
    hsome, ?_, hmarker, htime⟩
  · rw [hrange] at hanchor
    exact first_ne_last_of_anchor? hanchor
  · rw [hchange, change?] at hmade
    obtain ⟨block, -, hcells⟩ := Option.bind_eq_some_iff.mp hmade
    exact Suggestion.wellFormed_changeOfCells hcells
  · rw [hbody]
    exact trimmed_body page thread

end ReviewPage

/-! ### Comments of a payload -/

theorem Decode.path_ne_of_mem_file {summary : Json.Value} {made : FileDiff}
    (h : made ∈ (Decode.file summary).kept) : made.path ≠ "" := by
  cases summary with
  | object fields =>
    rw [kept_file] at h
    obtain ⟨path, hpath, rfl⟩ := List.mem_map.mp h
    exact (path?_eq_some_iff.mp (Option.mem_toList.mp hpath)).2
  | _ => cases h

theorem Decode.path_ne_of_mem_files {root : Json.Value} {decoded : Decode.Decoded}
    (h : Decode.payload? root = .ok decoded) :
    ∀ file ∈ decoded.payload.files, file.path ≠ "" := by
  obtain ⟨body, threadFields, summaries, -, rfl⟩ := payload?_eq_ok_iff.mp h
  rw [payload_contents]
  intro file hfile
  obtain ⟨summary, -, hmade⟩ := List.mem_flatMap.mp hfile
  exact path_ne_of_mem_file hmade

/-- An attachment gives a place in its file, with a marker. -/
theorem exists_file_of_mem_attachments {files : List FileDiff} {attachment : Attachment}
    {place : Place} (h : attachment ∈ attachments files) (hplace : attachment.place? = some place) :
    (∃ file ∈ files, place.path = file.path) ∧ place.marker ≠ none := by
  rcases List.mem_append.mp h with h | h
  · obtain ⟨file, hfile, hattached⟩ := List.mem_flatMap.mp h
    obtain ⟨⟨entry, reference⟩, -, rfl⟩ := List.mem_map.mp hattached
    obtain ⟨span, -, rfl⟩ := Option.map_eq_some_iff.mp hplace
    exact ⟨⟨file, hfile, rfl⟩, Option.some_ne_none _⟩
  · obtain ⟨file, hfile, hattached⟩ := List.mem_flatMap.mp h
    obtain ⟨line, -, hreference⟩ := List.mem_flatMap.mp hattached
    obtain ⟨reference, -, rfl⟩ := List.mem_map.mp hreference
    obtain ⟨first, -, rfl⟩ := Option.map_eq_some_iff.mp hplace
    exact ⟨⟨file, hfile, rfl⟩, Option.some_ne_none _⟩

theorem exists_file_of_getElem?_placesOf {files : List FileDiff} {id : ThreadId} {place : Place}
    (h : (placesOf files)[id]? = some place) :
    (∃ file ∈ files, place.path = file.path) ∧ place.marker ≠ none := by
  rw [getElem?_placesOf_eq_origin?] at h
  obtain ⟨attachment, horigin, hplace⟩ := Option.bind_eq_some_iff.mp h
  exact exists_file_of_mem_attachments (List.mem_of_find?_eq_some horigin) hplace

theorem Message.first_ne_last_of_record {place : Place} {message : Message} {range : LineRange}
    (h : (message.record place).anchor = .lines range) : range.first ≠ range.last := by
  unfold record at h
  dsimp only at h
  split at h
  · exact Anchor.first_ne_last_of_of h
  · exact Anchor.first_ne_last_of_of h

theorem Payload.wellFormed_of_mem_records {payload : Payload}
    (hpaths : ∀ file ∈ payload.files, file.path ≠ "") {comment : Comment}
    (h : comment ∈ payload.records) : comment.WellFormed ∧ comment.Suits .structured := by
  obtain ⟨thread, -, hthread⟩ := List.mem_flatMap.mp h
  obtain ⟨place, hplace, hmessage⟩ := List.mem_flatMap.mp hthread
  obtain ⟨message, -, rfl⟩ := List.mem_map.mp hmessage
  obtain ⟨⟨file, hfile, hpath⟩, hmarker⟩ :=
    exists_file_of_getElem?_placesOf (Option.mem_toList.mp hplace)
  refine ⟨⟨?_, fun _ => Message.first_ne_last_of_record,
    fun _ => Suggestion.wellFormed_change_ofBody?⟩, hmarker⟩
  show place.path ≠ ""
  rw [hpath]
  exact hpaths file hfile

/-! ### Reports -/

/-- A report on comments has what all of them have. -/
theorem Report.wellFormed_ofCollection {comments : List Comment} {kind : SourceKind}
    (h : ∀ comment ∈ comments, comment.WellFormed ∧ comment.Suits kind) :
    (Report.ofCollection (.ofList comments)).WellFormed kind := by
  have hmem : ∀ file ∈ (ofCollection (.ofList comments)).files, ∀ comment ∈ file.comments,
      comment ∈ comments ∧ comment.path = file.path := by
    intro file hfile comment hcomment
    rw [(stablySorted_of_mem_files hfile).perm.mem_iff, commentsOn, List.mem_filter,
      decide_eq_true_iff] at hcomment
    exact hcomment
  -- The path of a file is that of a comment, which is then a comment of the file.
  have hsome : ∀ file ∈ (ofCollection (.ofList comments)).files,
      ∃ comment ∈ comments, comment.path = file.path ∧ comment ∈ file.comments := by
    intro file hfile
    obtain ⟨comment, hcomment, hpath⟩ :=
      mem_map_path_files.mp (List.mem_map_of_mem (f := (·.path)) hfile)
    refine ⟨comment, hcomment, hpath, ?_⟩
    rw [(stablySorted_of_mem_files hfile).perm.mem_iff, commentsOn, List.mem_filter]
    exact ⟨hcomment, decide_eq_true hpath⟩
  refine ⟨pairwise_path_files comments, fun file hfile => ?_, fun file hfile => ?_,
    fun file hfile comment hcomment => (hmem file hfile comment hcomment).2,
    fun file hfile comment hcomment => h comment (hmem file hfile comment hcomment).1⟩
  · obtain ⟨comment, hcomment, hpath, -⟩ := hsome file hfile
    exact hpath ▸ (h comment hcomment).1.path
  · obtain ⟨comment, -, -, hown⟩ := hsome file hfile
    exact List.ne_nil_of_mem hown

/-- **Every report is well-formed.** Its files have names in strictly ascending order, and each
has comments, all on that file. No range has equal ends, and every suggested change has lines,
without blanks at their ends. On a page every body says something, without blanks at its ends,
and there are no markers and times; in a payload every comment has a marker. -/
theorem Digest.wellFormed_of_ofDocument {document : String} {mode : SourceMode} {digest : Digest}
    (h : ofDocument document mode = .ok digest) : digest.report.WellFormed digest.kind := by
  obtain ⟨source, hsource, rfl⟩ := ofDocument_eq_ok_iff.mp h
  rcases Source.ofDocument_cases hsource with ⟨text, decoded, -, hdecoded, rfl⟩ | rfl
  · obtain ⟨root, -, hpayload⟩ := Decode.text?_eq_ok_iff.mp hdecoded
    have hpaths := Decode.path_ne_of_mem_files hpayload
    show (ofPayload decoded.payload).report.WellFormed .structured
    rw [report_ofPayload]
    exact Report.wellFormed_ofCollection fun _ => Payload.wellFormed_of_mem_records hpaths
  · -- What the page holds does not matter, and must not be computed.
    generalize Html.Page.ofText document = page
    show (Report.ofCollection (ReviewPage.collect page).comments).WellFormed .markup
    rw [ReviewPage.collect, Collected.comments_ofFates, List.flatMap_map]
    refine Report.wellFormed_ofCollection fun comment hcomment => ?_
    obtain ⟨thread, -, hmade⟩ := List.mem_flatMap.mp hcomment
    exact ReviewPage.wellFormed_of_mem_comments_fate hmade

/-- A page with a thread on two lines. -/
def pageDocument : String :=
  "<i class=file data-tagsearch-path=a.rs><p class=review-thread-component>" ++
    "Comment on lines 7 to 8<b class=comment-body> fix"

/-- Its report is well-formed, and holds one comment. -/
theorem Digest.wellFormed_of_ofDocument_pageDocument :
    ∃ digest, ofDocument pageDocument .markup = .ok digest ∧ digest.kind = .markup ∧
      digest.tally.emitted = 1 ∧ digest.report.WellFormed digest.kind := by
  have hemitted : (ReviewPage.collect (Html.Page.ofText pageDocument)).tally.emitted = 1 := by
    decide +kernel
  have hsource := Source.ofDocument_markup pageDocument
  -- From here on the page must not be computed.
  generalize Html.Page.ofText pageDocument = page at hsource hemitted
  have hthreads : ReviewPage.hasThreads page = true := by
    rw [ReviewPage.hasThreads, Bool.not_eq_true', List.isEmpty_eq_false_iff]
    intro hnone
    rw [ReviewPage.collect, hnone] at hemitted
    cases hemitted
  have hmarkup : Source.ofMarkup page .noThreads = .ok (.markup page) :=
    Source.ofMarkup_eq_ok_iff.mpr ⟨hthreads, rfl⟩
  have hdigest : ofDocument pageDocument .markup = .ok (ofSource (.markup page)) :=
    ofDocument_eq_ok_iff.mpr ⟨_, hsource.trans hmarkup, rfl⟩
  exact ⟨_, hdigest, rfl, hemitted, wellFormed_of_ofDocument hdigest⟩

end CodeReview
