import CodeReview.Proofs.Payload.Damage

/-!
# CodeReview.Proofs.Payload.Alike

Payloads that differ at one place, in something that is read alike, are read alike: with the same
threads and files, the same warnings, or the same failure.

Each reader on the way to the place is followed from the inside out. What is said of it is
`ReadAlike`: two values that differ at the end of a path have the same reading. A record may be
written in two ways, so a step into a record is one of two (`FieldAt`).
-/

namespace CodeReview.Decode

open Json

variable {α : Type} {old new : Value} {path : List Step} {step : Step}

/-! ### Readings -/

/-- Values that differ as `old` and `new` do, at the end of a path, have the same reading. -/
def ReadAlike {α : Type} (old new : Value) (path : List Step) (read : Value → α) : Prop :=
  ∀ value other, DifferAt old new path value other → read value = read other

/-- A step from a record to one of its fields: by the name of the field, or by its place where the
record is written as an array. -/
inductive FieldAt (names : List String) (name : String) : Step → Prop
  | named : FieldAt names name (.field name)
  | placed {index : Nat} : names[index]? = some name → FieldAt names name (.item index)

theorem ReadAlike.here {read : Value → α} (h : read old = read new) : ReadAlike old new [] read := by
  rintro value other ⟨⟩
  exact h

/-! ### Records -/

variable {fields others : Fields} {name : String}

theorem optional?_of_ne {key : String}
    (h : DifferAt old new (.field key :: path) (.object fields) (.object others)) (hne : name ≠ key)
    (read : Value → Option α) : optional? read name fields = optional? read name others := by
  rw [optional?, optional?, h.get?_of_ne hne]

theorem optional?_of_get? {value : Value}
    (h : Fields.get? fields name = some value) (hvalue : value ≠ .null) (read : Value → Option α) :
    optional? read name fields = (read value).map some := by
  rw [optional?, h]
  cases value with
  | null => exact absurd rfl hvalue
  | _ => rfl

/-- A field that may be absent is read alike if its value is. -/
theorem optional?_of_differAt {read : Value → Option α} (hread : ReadAlike old new path read)
    (hold : old ≠ .null) (hnew : new ≠ .null)
    (h : DifferAt old new (.field name :: path) (.object fields) (.object others)) :
    optional? read name fields = optional? read name others := by
  obtain ⟨value, value', hvalue, hvalue', hrest⟩ := h.get?_self
  obtain ⟨hne, hne'⟩ := hrest.ne_null hold hnew
  rw [optional?_of_get? hvalue hne, optional?_of_get? hvalue' hne', hread value value' hrest]

theorem exists_append_of_getElem? {names : List String} {index : Nat}
    (h : names[index]? = some name) :
    ∃ front back, names = front ++ name :: back ∧ front.length = index := by
  obtain ⟨hlt, rfl⟩ := List.getElem?_eq_some_iff.mp h
  refine ⟨names.take index, names.drop (index + 1), ?_, List.length_take_of_le (Nat.le_of_lt hlt)⟩
  rw [← List.drop_eq_getElem_cons hlt, List.take_append_drop]

/-- However the two are written, their fields differ at the name, unless neither is a record. -/
theorem record?_of_differAt {names : List String} (hstep : FieldAt names name step)
    (hnames : names.Nodup) {value other : Value}
    (h : DifferAt old new (step :: path) value other) :
    record? names value = none ∧ record? names other = none ∨
      ∃ fields others, record? names value = some fields ∧ record? names other = some others ∧
        DifferAt old new (.field name :: path) (.object fields) (.object others) := by
  cases hstep with
  | named =>
    obtain ⟨fields, others, rfl, rfl⟩ := h.isObject
    exact .inr ⟨fields, others, rfl, rfl, h⟩
  | placed hindex =>
    obtain ⟨items, others, rfl, rfl⟩ := h.isArray
    obtain ⟨before, after, part, part', hbefore, rfl, rfl, hrest⟩ := h.items_split
    obtain ⟨front, back, rfl, hfront⟩ := exists_append_of_getElem? hindex
    rw [← hbefore] at hfront
    have hzip (part : Value) : (front ++ name :: back).zip (before ++ part :: after) =
        front.zip before ++ (name, part) :: back.zip after := by
      rw [List.zip_append hfront, List.zip_cons_cons]
    have hfirst : name ∉ (front.zip before).map Prod.fst := by
      rw [List.map_fst_zip (Nat.le_of_eq hfront)]
      exact fun hmem => (List.nodup_append.mp hnames).2.2 name hmem name List.mem_cons_self rfl
    have hlength : (before ++ part' :: after).length = (before ++ part :: after).length := by
      rw [List.length_append, List.length_append, List.length_cons, List.length_cons]
    simp only [record?, hlength, hzip]
    split
    · exact .inr ⟨_, _, rfl, rfl, .field hfirst hrest⟩
    · exact .inl ⟨rfl, rfl⟩

/-- A record is read alike if its fields are. -/
theorem ReadAlike.record {names : List String} (hstep : FieldAt names name step)
    (hnames : names.Nodup) {read : Fields → Option α}
    (hread : ∀ fields others,
      DifferAt old new (.field name :: path) (.object fields) (.object others) →
        read fields = read others) :
    ReadAlike old new (step :: path) fun value => (record? names value).bind read := by
  intro value other h
  dsimp only
  rcases record?_of_differAt hstep hnames h with
    ⟨hnone, hnone'⟩ | ⟨fields, others, hfields, hothers, hrest⟩
  · rw [hnone, hnone']
  · rw [hfields, hothers]
    exact hread fields others hrest

theorem ReadAlike.list? {read : Value → Option α} (h : ReadAlike old new path read) {index : Nat} :
    ReadAlike old new (.item index :: path) (list? read) := by
  intro value other hdiffer
  obtain ⟨items, others, rfl, rfl⟩ := hdiffer.isArray
  obtain ⟨before, after, part, part', -, rfl, rfl, hrest⟩ := hdiffer.items_split
  simp only [Decode.list?, List.mapM_append, List.mapM_cons, h part part' hrest]

/-! ### Ids -/

section

variable (hid : threadId? old = threadId? new) (hold : old ≠ .null) (hnew : new ≠ .null)
include hid

theorem readAlike_markerReference?
    (hstep : FieldAt ["id", "startLine", "endLine", "start"] "id" step) :
    ReadAlike old new [step] markerReference? := by
  refine ReadAlike.record hstep (by decide) fun fields others h => ?_
  obtain ⟨_, _, hvalue, hvalue', ⟨⟩⟩ := h.get?_self
  simp (disch := decide) only [hvalue, hvalue', Option.bind_some, hid, optional?_of_ne h]

theorem readAlike_lineReference?
    (hstep : FieldAt ["id", "startLine", "line", "endLine"] "id" step) :
    ReadAlike old new [step] lineReference? := by
  refine ReadAlike.record hstep (by decide) fun fields others h => ?_
  obtain ⟨_, _, hvalue, hvalue', ⟨⟩⟩ := h.get?_self
  simp (disch := decide) only [hvalue, hvalue', Option.bind_some, hid, optional?_of_ne h]

include hold hnew

theorem readAlike_thread? (key : String)
    (hstep : FieldAt ["id", "isResolved", "commentsData"] "id" step) :
    ReadAlike old new [step] (thread? key) := by
  refine ReadAlike.record hstep (by decide) fun fields others h => ?_
  have hflag : flag? "isResolved" fields = flag? "isResolved" others := by
    rw [flag?, flag?, h.get?_of_ne (by decide)]
  have hown := optional?_of_differAt (.here hid) hold hnew h
  simp (disch := decide) only [hown, hflag, optional?_of_ne h]

end

/-! ### References -/

section

variable (hold : old ≠ .null) (hnew : new ≠ .null)
include hold hnew

theorem readAlike_marker? (marker : String) {index : Nat}
    (hstep : FieldAt ["ctx", "threads"] "threads" step)
    (hread : ReadAlike old new path markerReference?) :
    ReadAlike old new (step :: .item index :: path) (marker? marker) := by
  refine ReadAlike.record hstep (by decide) fun fields others h => ?_
  have hreferences := optional?_of_differAt hread.list? hold hnew h
  simp (disch := decide) only [hreferences, optional?_of_ne h]

theorem readAlike_diffLine? {index : Nat}
    (hstep : FieldAt ["newLineNumber", "oldLineNumber", "threads"] "threads" step)
    (hread : ReadAlike old new path lineReference?) :
    ReadAlike old new (step :: .item index :: path) diffLine? := by
  refine ReadAlike.record hstep (by decide) fun fields others h => ?_
  have hreferences := optional?_of_differAt hread.list? hold hnew h
  simp (disch := decide) only [hreferences, optional?_of_ne h]

end

/-! ### Files -/

theorem Reading.each_append_cons {β : Type} {read : β → Reading α} {part part' : β}
    (h : read part = read part') (before after : List β) :
    each read (before ++ part :: after) = each read (before ++ part' :: after) := by
  simp only [each, List.flatMap_append, List.flatMap_cons, h]

theorem readAlike_markers {marker : String} (hread : ReadAlike old new path (marker? marker)) :
    ReadAlike old new (.field marker :: path) fun value => markers (some value) := by
  intro value other h
  obtain ⟨fields, others, rfl, rfl⟩ := h.isObject
  obtain ⟨before, after, entry, entry', rfl, rfl, hrest⟩ := h.fields_split
  refine Reading.each_append_cons ?_ before after
  exact congrArg (Reading.ofRecord .marker marker) (hread entry entry' hrest)

theorem readAlike_diffLines {index : Nat} (hread : ReadAlike old new path diffLine?) :
    ReadAlike old new (.item index :: path) fun value => diffLines (some value) := by
  intro value other h
  obtain ⟨items, others, rfl, rfl⟩ := h.isArray
  obtain ⟨before, after, line, line', -, rfl, rfl, hrest⟩ := h.items_split
  simp only [diffLines, List.zipIdx_append, List.zipIdx_cons]
  refine Reading.each_append_cons ?_ _ _
  rw [hread line line' hrest]

/-- A file summary is read alike if the part of it that differs is. -/
theorem readAlike_file_markersMap (hread : ReadAlike old new path fun value => markers (some value)) :
    ReadAlike old new (.field "markersMap" :: path) file := by
  intro value other h
  obtain ⟨fields, others, rfl, rfl⟩ := h.isObject
  obtain ⟨entries, entries', hentries, hentries', hrest⟩ := h.get?_self
  have hpath : path? fields = path? others := by
    rw [path?, path?, h.get?_of_ne (by decide)]
  have hlines : Fields.get? fields "diffLines" = Fields.get? others "diffLines" :=
    h.get?_of_ne (by decide)
  have hmarkers : markers (some entries) = markers (some entries') := hread entries entries' hrest
  rw [file, file, hpath, hentries, hentries', hmarkers, hlines]

theorem readAlike_file_diffLines (hread : ReadAlike old new path fun value => diffLines (some value)) :
    ReadAlike old new (.field "diffLines" :: path) file := by
  intro value other h
  obtain ⟨fields, others, rfl, rfl⟩ := h.isObject
  obtain ⟨items, items', hitems, hitems', hrest⟩ := h.get?_self
  have hpath : path? fields = path? others := by
    rw [path?, path?, h.get?_of_ne (by decide)]
  have hmarkers : Fields.get? fields "markersMap" = Fields.get? others "markersMap" :=
    h.get?_of_ne (by decide)
  have hlines : diffLines (some items) = diffLines (some items') := hread items items' hrest
  rw [file, file, hpath, hitems, hitems', hmarkers, hlines]

/-! ### Payloads -/

section

variable {root other : Value} {wrapper : List Step}
  (hwrapper : wrapper = [] ∨ wrapper = [.field "payload"])
include hwrapper

/-- A payload is read alike if the thread in which it differs is. -/
theorem payload?_eq_of_thread {key : String} (hread : ReadAlike old new path (thread? key))
    (hdiffer : DifferAt old new (wrapper ++ .field "threads" :: .field key :: path) root other) :
    payload? root = payload? other := by
  rcases payload?_of_differAt hwrapper (by decide) hdiffer with
    hsame | ⟨body, rest, hbody, hrest, hchange⟩
  · exact hsame
  · obtain ⟨value, value', hvalue, hvalue', hthreads⟩ := hchange.get?_self
    obtain ⟨fields, others, rfl, rfl⟩ := hthreads.isObject
    obtain ⟨before, after, part, part', rfl, rfl, hpart⟩ := hthreads.fields_split
    have hsummaries : Fields.get? body "diffSummaries" = Fields.get? rest "diffSummaries" :=
      hchange.get?_of_ne (by decide)
    have hcontents : contents (before ++ (key, part) :: after) =
        contents (before ++ (key, part') :: after) := by
      funext summaries
      have hsame : threads (before ++ (key, part) :: after) =
          threads (before ++ (key, part') :: after) := by
        refine Reading.each_append_cons ?_ before after
        exact congrArg (Reading.ofRecord .thread key) (hread part part' hpart)
      rw [contents, contents, hsame]
    simp only [payload?, hbody.body?_eq, hrest.body?_eq, hvalue, hvalue', hsummaries, hcontents, bind,
      Except.bind]

/-- A payload is read alike if the file summary in which it differs is. -/
theorem payload?_eq_of_file {index : Nat} (hread : ReadAlike old new path file)
    (hdiffer : DifferAt old new (wrapper ++ .field "diffSummaries" :: .item index :: path) root
      other) :
    payload? root = payload? other := by
  rcases payload?_of_differAt hwrapper (by decide) hdiffer with
    hsame | ⟨body, rest, hbody, hrest, hchange⟩
  · exact hsame
  · obtain ⟨value, value', hvalue, hvalue', hsummaries⟩ := hchange.get?_self
    obtain ⟨items, others, rfl, rfl⟩ := hsummaries.isArray
    obtain ⟨before, after, part, part', -, rfl, rfl, hpart⟩ := hsummaries.items_split
    have hthreads : Fields.get? body "threads" = Fields.get? rest "threads" :=
      hchange.get?_of_ne (by decide)
    have hcontents (fields : Fields) : contents fields (before ++ part :: after) =
        contents fields (before ++ part' :: after) := by
      rw [contents, contents, Reading.each_append_cons (hread part part' hpart)]
    simp only [payload?, hbody.body?_eq, hrest.body?_eq, hvalue, hvalue', hthreads, hcontents, bind,
      Except.bind]

end

end CodeReview.Decode
