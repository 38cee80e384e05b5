import CodeReview.Proofs.Json.Difference
import CodeReview.Proofs.Payload.Flaws

/-!
# CodeReview.Proofs.Payload.Damage

What a change at one place of a payload comes to once it is read. A change in a thread is a
change of that thread alone, a change in a marker entry or a diff line one of that entry or line
alone: either version of it may be malformed, and then it is not there.
-/

namespace CodeReview.Decode

open Json

variable {old new root other : Value} {decoded damaged : Decoded} {wrapper : List Step}

/-! ### Down to the contents -/

/-- The payloads have bodies that differ in the same way, unless the change is not in what is
read at all. -/
theorem payload?_of_differAt (hwrapper : wrapper = [] ∨ wrapper = [.field "payload"]) {name : String}
    (hname : name ∈ ["threads", "diffSummaries"]) {path : List Step}
    (hdiffer : DifferAt old new (wrapper ++ .field name :: path) root other) :
    payload? root = payload? other ∨ ∃ body rest, Body root body ∧ Body other rest ∧
      DifferAt old new (.field name :: path) (.object body) (.object rest) := by
  rcases hwrapper with rfl | rfl
  · -- The change is not under the key `payload`. If there is one, both bodies stand there and
    -- are the same, or are no objects; else they are the roots.
    obtain ⟨fields, others, rfl, rfl⟩ := hdiffer.isObject
    have hne : "payload" ≠ name := by
      rintro rfl
      exact absurd hname (by decide)
    have hsame : Fields.get? fields "payload" = Fields.get? others "payload" :=
      hdiffer.get?_of_ne hne
    cases hpayload : Fields.get? fields "payload" with
    | some value =>
      left
      by_cases hobject : ∃ inner, value = .object inner
      · obtain ⟨inner, rfl⟩ := hobject
        exact payload?_eq_of_body (.wrapped hpayload) (.wrapped (hsame ▸ hpayload))
      · rw [not_exists] at hobject
        rw [(Flaw.payloadNoObject hpayload hobject).payload?_eq,
          (Flaw.payloadNoObject (hsame ▸ hpayload) hobject).payload?_eq]
    | none =>
      obtain ⟨value, value', hvalue, hvalue', -⟩ := hdiffer.get?_self
      refine .inr ⟨fields, others, .bare hpayload hname ?_, .bare (hsame ▸ hpayload) hname ?_,
        hdiffer⟩
      · rw [hvalue]
        exact Option.some_ne_none value
      · rw [hvalue']
        exact Option.some_ne_none value'
  · obtain ⟨fields, others, rfl, rfl⟩ := hdiffer.isObject
    obtain ⟨inner, inner', hinner, hinner', hrest⟩ := hdiffer.get?_self
    obtain ⟨fields, others, rfl, rfl⟩ := hrest.isObject
    exact .inr ⟨fields, others, .wrapped hinner, .wrapped hinner', hrest⟩

/-- So do the contents, unless they are the same. -/
theorem shapes_of_differAt (hwrapper : wrapper = [] ∨ wrapper = [.field "payload"]) {name : String}
    (hname : name ∈ ["threads", "diffSummaries"]) {path : List Step}
    (hdiffer : DifferAt old new (wrapper ++ .field name :: path) root other)
    (h : payload? root = .ok decoded) (h' : payload? other = .ok damaged) :
    decoded = damaged ∨ ∃ body rest fields others summaries more,
      DifferAt old new (.field name :: path) (.object body) (.object rest) ∧
        HasShape root body fields summaries ∧ HasShape other rest others more ∧
        decoded = contents fields summaries ∧ damaged = contents others more := by
  rcases payload?_of_differAt hwrapper hname hdiffer with hsame | ⟨body, rest, hbody, hrest, hchange⟩
  · exact .inl (Except.ok.inj ((h.symm.trans hsame).trans h'))
  · obtain ⟨_, fields, summaries, hshape, rfl⟩ := payload?_eq_ok_iff.mp h
    obtain ⟨_, others, more, hshape', rfl⟩ := payload?_eq_ok_iff.mp h'
    obtain rfl := Except.ok.inj (hbody.body?_eq.symm.trans hshape.holds)
    obtain rfl := Except.ok.inj (hrest.body?_eq.symm.trans hshape'.holds)
    exact .inr ⟨_, _, fields, others, summaries, more, hchange, hshape, hshape', rfl, rfl⟩

theorem filterMap_append_cons {α β : Type} (read : α → Option β) (before after : List α)
    (part : α) :
    (before ++ part :: after).filterMap read =
      before.filterMap read ++ (read part).toList ++ after.filterMap read := by
  rw [List.filterMap_append, List.append_assoc]
  cases hpart : read part with
  | none => rw [List.filterMap_cons_none hpart, Option.toList_none, List.nil_append]
  | some value => rw [List.filterMap_cons_some hpart, Option.toList_some, List.singleton_append]

/-! ### Threads -/

/-- A change in a thread leaves the other threads and the files as they are. -/
theorem payload?_of_differAt_thread
    (hwrapper : wrapper = [] ∨ wrapper = [.field "payload"]) {key : String}
    (hdiffer : DifferAt old new (wrapper ++ [.field "threads", .field key]) root other)
    (h : payload? root = .ok decoded) (h' : payload? other = .ok damaged) :
    decoded = damaged ∨ ∃ front back files,
      decoded.payload = ⟨front ++ (thread? key old).toList ++ back, files⟩ ∧
        damaged.payload = ⟨front ++ (thread? key new).toList ++ back, files⟩ := by
  rcases shapes_of_differAt hwrapper (by decide) hdiffer h h' with
    rfl | ⟨body, rest, fields, others, summaries, more, hbody, hshape, hshape', rfl, rfl⟩
  · exact .inl rfl
  · right
    have hsummaries : Fields.get? body "diffSummaries" = Fields.get? rest "diffSummaries" :=
      hbody.get?_of_ne (by decide)
    obtain rfl : summaries = more := by
      simpa [hshape.summaries, hshape'.summaries] using hsummaries
    obtain ⟨value, value', hvalue, hvalue', hthreads⟩ := hbody.get?_self
    obtain rfl := Option.some.inj (hvalue.symm.trans hshape.threads)
    obtain rfl := Option.some.inj (hvalue'.symm.trans hshape'.threads)
    obtain ⟨before, after, _, _, rfl, rfl, hleaf⟩ := hthreads.fields_split
    cases hleaf
    rw [payload_contents, payload_contents, filterMap_append_cons, filterMap_append_cons]
    exact ⟨_, _, _, rfl, rfl⟩

/-! ### Files -/

/-- A change in a marker entry of a file summary leaves the rest of it as it is. -/
theorem file_of_differAt_marker {value value' : Value} {marker : String}
    (hdiffer : DifferAt old new [.field "markersMap", .field marker] value value') :
    (file value).kept = (file value').kept ∨ ∃ path before after lines,
      (file value).kept = [⟨path, before ++ (marker? marker old).toList ++ after, lines⟩] ∧
        (file value').kept = [⟨path, before ++ (marker? marker new).toList ++ after, lines⟩] := by
  obtain ⟨fields, others, rfl, rfl⟩ := hdiffer.isObject
  have hpath : path? fields = path? others := by
    rw [path?, path?, hdiffer.get?_of_ne (by decide)]
  obtain ⟨entries, entries', hentries, hentries', hmarkers⟩ := hdiffer.get?_self
  obtain ⟨entries, entries', rfl, rfl⟩ := hmarkers.isObject
  obtain ⟨before, after, _, _, rfl, rfl, hleaf⟩ := hmarkers.fields_split
  cases hleaf
  have hlines : Fields.get? fields "diffLines" = Fields.get? others "diffLines" :=
    hdiffer.get?_of_ne (by decide)
  rw [kept_file, kept_file, hpath, hlines, hentries, hentries', kept_markers, kept_markers,
    filterMap_append_cons, filterMap_append_cons]
  cases path? others with
  | none => exact .inl rfl
  | some path => exact .inr ⟨path, _, _, _, rfl, rfl⟩

/-- A change in a diff line of a file summary leaves the rest of it as it is. -/
theorem file_of_differAt_line {value value' : Value} {index : Nat}
    (hdiffer : DifferAt old new [.field "diffLines", .item index] value value') :
    (file value).kept = (file value').kept ∨ ∃ path markers before after,
      (file value).kept = [⟨path, markers, before ++ (diffLine? old).toList ++ after⟩] ∧
        (file value').kept = [⟨path, markers, before ++ (diffLine? new).toList ++ after⟩] := by
  obtain ⟨fields, others, rfl, rfl⟩ := hdiffer.isObject
  have hpath : path? fields = path? others := by
    rw [path?, path?, hdiffer.get?_of_ne (by decide)]
  obtain ⟨items, items', hitems, hitems', hlines⟩ := hdiffer.get?_self
  obtain ⟨items, items', rfl, rfl⟩ := hlines.isArray
  obtain ⟨before, after, _, _, -, rfl, rfl, hleaf⟩ := hlines.items_split
  cases hleaf
  have hmarkers : Fields.get? fields "markersMap" = Fields.get? others "markersMap" :=
    hdiffer.get?_of_ne (by decide)
  rw [kept_file, kept_file, hpath, hmarkers, hitems, hitems', kept_diffLines, kept_diffLines,
    filterMap_append_cons, filterMap_append_cons]
  cases path? others with
  | none => exact .inl rfl
  | some path => exact .inr ⟨path, _, _, _, rfl, rfl⟩

/-- A change in a file summary leaves the threads and the other files as they are. -/
theorem payload?_of_differAt_file
    (hwrapper : wrapper = [] ∨ wrapper = [.field "payload"]) {index : Nat} {path : List Step}
    (hdiffer : DifferAt old new (wrapper ++ .field "diffSummaries" :: .item index :: path) root
      other)
    (h : payload? root = .ok decoded) (h' : payload? other = .ok damaged) :
    decoded = damaged ∨ ∃ value value' front back, DifferAt old new path value value' ∧
      decoded.payload.files = front ++ (file value).kept ++ back ∧
        damaged.payload.files = front ++ (file value').kept ++ back := by
  rcases shapes_of_differAt hwrapper (by decide) hdiffer h h' with
    rfl | ⟨body, rest, fields, others, summaries, more, hbody, hshape, hshape', rfl, rfl⟩
  · exact .inl rfl
  · right
    obtain ⟨value, value', hvalue, hvalue', hsummaries⟩ := hbody.get?_self
    obtain rfl := Option.some.inj (hvalue.symm.trans hshape.summaries)
    obtain rfl := Option.some.inj (hvalue'.symm.trans hshape'.summaries)
    obtain ⟨before, after, value, value', -, rfl, rfl, hrest⟩ := hsummaries.items_split
    refine ⟨value, value', before.flatMap fun summary => (file summary).kept,
      after.flatMap fun summary => (file summary).kept, hrest, ?_, ?_⟩
    all_goals
      rw [payload_contents]
      simp only [List.flatMap_append, List.flatMap_cons, List.append_assoc]

end CodeReview.Decode
