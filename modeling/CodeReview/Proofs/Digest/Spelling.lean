import CodeReview.Proofs.Digest.Detection
import CodeReview.Proofs.Json.Literal
import CodeReview.Proofs.Payload.Alike
import Mathlib.Logic.Relation
import Std.Data.String.ToInt

/-!
# CodeReview.Proofs.Digest.Spelling

An id that is an integer may be written as a number or as a text. Three kinds of records hold ids:
threads, references at markers and references at diff lines. Each side of a look-up turns its ids
into text by itself, so any of them may be written either way, and the payload is read as the
same.

The ids are written another way one after another (`Respelled` is one of them), and what an
induction over them carries is the whole reading of the payload: what is accepted, what is left
out, and what is kept.
-/

namespace CodeReview.Decode

open Json

/-! ### Integers as ids -/

/-- The value is the integer, written as a number or as a text. -/
inductive WritesInteger (n : Int) : Value → Prop
  | number : WritesInteger n (.number (.integer n))
  | text : WritesInteger n (.string (toString n))

variable {n m : Int} {value other : Value}

theorem WritesInteger.threadId? (h : WritesInteger n value) :
    threadId? value = some (toString n) := by
  cases h <;> rfl

theorem WritesInteger.ne_null (h : WritesInteger n value) : value ≠ .null := by
  cases h <;> exact Value.noConfusion

/-- Different integers are different ids, whichever way they are written. -/
theorem WritesInteger.threadId?_eq_iff (h : WritesInteger n value) (h' : WritesInteger m other) :
    Decode.threadId? value = Decode.threadId? other ↔ n = m := by
  rw [h.threadId?, h'.threadId?, Option.some.injEq, Int.toString_eq_repr, Int.toString_eq_repr,
    Int.repr_inj]

/-- The texts of an integer that a number can hold are read as its two ways. -/
theorem WritesInteger.of_read {text : String} (hlow : -(powerOfTwo 63 : Int) ≤ n)
    (hhigh : n < powerOfTwo 64) (htext : text = toString n ∨ text = "\"" ++ toString n ++ "\"") :
    ∃ value, Json.read text = .ok value ∧ WritesInteger n value := by
  rcases htext with rfl | rfl
  · exact ⟨_, read_toString hlow hhigh, .number⟩
  · exact ⟨_, read_quoted_toString n, .text⟩

/-! ### Places of ids -/

/-- The way from the object that holds a payload to an id in it. Every record on the way may be
written as an object or as an array. -/
inductive IdPath : List Step → Prop
  /-- The own id of a thread. -/
  | thread {key : String} {id : Step} : FieldAt ["id", "isResolved", "commentsData"] "id" id →
      IdPath [.field "threads", .field key, id]
  /-- The id in a reference at a marker. -/
  | marker {file reference : Nat} {marker : String} {list id : Step} :
      FieldAt ["ctx", "threads"] "threads" list →
      FieldAt ["id", "startLine", "endLine", "start"] "id" id →
      IdPath [.field "diffSummaries", .item file, .field "markersMap", .field marker, list,
        .item reference, id]
  /-- The id in a reference at a diff line. -/
  | diffLine {file line reference : Nat} {list id : Step} :
      FieldAt ["newLineNumber", "oldLineNumber", "threads"] "threads" list →
      FieldAt ["id", "startLine", "line", "endLine"] "id" id →
      IdPath [.field "diffSummaries", .item file, .field "diffLines", .item line, list,
        .item reference, id]

/-- One id, an integer, is written another way in the second payload than in the first. -/
inductive Respelled : Value → Value → Prop
  | intro {n : Int} {wrapper path : List Step} {old new root other : Value} :
      wrapper = [] ∨ wrapper = [.field "payload"] → IdPath path → WritesInteger n old →
      WritesInteger n new → DifferAt old new (wrapper ++ path) root other → Respelled root other

/-! ### Readings -/

theorem payload?_eq_of_respelled {root other : Value} (h : Respelled root other) :
    payload? root = payload? other := by
  obtain ⟨hwrapper, hpath, hold, hnew, hdiffer⟩ := h
  have hid : threadId? _ = threadId? _ := hold.threadId?.trans hnew.threadId?.symm
  have hne := hold.ne_null
  have hne' := hnew.ne_null
  cases hpath with
  | thread hstep =>
    exact payload?_eq_of_thread hwrapper (readAlike_thread? hid hne hne' _ hstep) hdiffer
  | marker hlist hstep =>
    refine payload?_eq_of_file hwrapper (readAlike_file_markersMap (readAlike_markers ?_)) hdiffer
    exact readAlike_marker? hne hne' _ hlist (readAlike_markerReference? hid hstep)
  | diffLine hlist hstep =>
    refine payload?_eq_of_file hwrapper (readAlike_file_diffLines (readAlike_diffLines ?_)) hdiffer
    exact readAlike_diffLine? hne hne' hlist (readAlike_lineReference? hid hstep)

theorem payload?_eq_of_reflTransGen {root other : Value}
    (h : Relation.ReflTransGen Respelled root other) : payload? root = payload? other := by
  induction h with
  | refl => rfl
  | tail _ hstep ih => exact ih.trans (payload?_eq_of_respelled hstep)

/-- **It does not matter how ids are written.** In a payload that is accepted let any of the ids
that are integers be written another way, as numbers or as texts. The payload is read as the same:
its threads have the same ids, its files refer to the same threads, so the threads have the same
places, and unless markup is asked for, texts of the two make the same report with the same counts.
And two integers, whichever way they are written, are the same id only if they are equal. -/
theorem payload?_of_respelled {root other : Value} {decoded : Decoded}
    (hread : payload? root = .ok decoded)
    (hspelled : Relation.ReflTransGen Respelled root other) :
    payload? other = .ok decoded ∧
      (∀ text mode, Json.read text = .ok root ∨ Json.read text = .ok other → mode ≠ .markup →
        Digest.ofDocument text mode = .ok (Digest.ofPayload decoded.payload)) ∧
      (∀ (n : Int) (text : String), -(powerOfTwo 63 : Int) ≤ n → n < powerOfTwo 64 →
        text = toString n ∨ text = "\"" ++ toString n ++ "\"" →
        ∃ value, Json.read text = .ok value ∧ WritesInteger n value) ∧
      ∀ n m value value', WritesInteger n value → WritesInteger m value' →
        (threadId? value = threadId? value' ↔ n = m) := by
  have hother : payload? other = .ok decoded := by
    rw [← payload?_eq_of_reflTransGen hspelled, hread]
  refine ⟨hother, fun text mode htext hmode => ?_, fun n text => WritesInteger.of_read,
    fun n m value value' => WritesInteger.threadId?_eq_iff⟩
  rcases htext with htext | htext
  · exact Digest.ofDocument_of_text? ((text?_of_read htext).trans hread) hmode
  · exact Digest.ofDocument_of_text? ((text?_of_read htext).trans hother) hmode

/-- A payload with two threads, the second of which goes by its key, at a marker and at a diff
line. Three ids are left open: the own id of the first thread, the one at the marker, which is
written with arrays for records, and the one at the diff line. -/
def withIds (own marker line : Value) : Value :=
  let messages : Value := .object [("comments", .array [.object []])]
  let reference : Value := .object [("id", line)]
  .object
    [("threads", .object
      [("a", .object [("id", own), ("commentsData", messages)]),
        ("7", .object [("commentsData", messages)])]),
      ("diffSummaries", .array
        [.object
          [("path", .string "a.rs"),
            ("markersMap", .object [("R5", .array [.null, .array [.array [marker]]])]),
            ("diffLines", .array
              [.object [("newLineNumber", .number (.integer 3)),
                ("threads", .array [reference])]])]])]

/-- With one id as a text and the others as numbers. -/
def textAtMarker : Value :=
  withIds (.number (.integer (-1))) (.string "-1") (.number (.integer 7))

/-- With the others as texts. -/
def numberAtMarker : Value := withIds (.string "-1") (.number (.integer (-1))) (.string "7")

/-- Whichever of the ids are texts, both threads are found at their places. -/
theorem payload?_of_respelled_withIds :
    ∃ decoded, payload? textAtMarker = .ok decoded ∧ payload? numberAtMarker = .ok decoded ∧
      decoded.payload.threads.map Thread.id = ["-1", "7"] ∧
      (Digest.ofPayload decoded.payload).tally = { seen := 2, emitted := 2 } := by
  have hnone (name : String) : name ∉ ([] : Fields).map Prod.fst := List.not_mem_nil
  have hzero : ([] : List Value).length = 0 := rfl
  have hminus : WritesInteger (-1) (.string "-1") := .text
  have hseven : WritesInteger 7 (.string "7") := .text
  have hsummaries (threads : Value) : "diffSummaries" ∉ [("threads", threads)].map Prod.fst := by
    simp
  have hown : Respelled textAtMarker
      (withIds (.string "-1") (.string "-1") (.number (.integer 7))) :=
    .intro (.inl rfl) (.thread .named) .number hminus
      (.field (hnone _) (.field (hnone "a") (.field (hnone _) .here)))
  have hmarker : Respelled (withIds (.string "-1") (.string "-1") (.number (.integer 7)))
      (withIds (.string "-1") (.number (.integer (-1))) (.number (.integer 7))) := by
    have hlist : FieldAt ["ctx", "threads"] "threads" (.item 1) := .placed rfl
    have hid : FieldAt ["id", "startLine", "endLine", "start"] "id" (.item 0) := .placed rfl
    have hmarkers : "markersMap" ∉ [("path", Value.string "a.rs")].map Prod.fst := by simp
    have hcontext : [Value.null].length = 1 := rfl
    exact .intro (.inl rfl) (.marker hlist hid) hminus .number
      (.field (hsummaries _) (.item hzero (.field hmarkers (.field (hnone "R5")
        (.item hcontext (.item hzero (.item hzero .here)))))))
  have hline : Respelled
      (withIds (.string "-1") (.number (.integer (-1))) (.number (.integer 7))) numberAtMarker := by
    have hlines (markers : Value) :
        "diffLines" ∉ [("path", Value.string "a.rs"), ("markersMap", markers)].map Prod.fst := by
      simp
    have hlist (line : Value) : "threads" ∉ [("newLineNumber", line)].map Prod.fst := by simp
    exact .intro (.inl rfl) (.diffLine .named .named) .number hseven
      (.field (hsummaries _) (.item hzero (.field (hlines _) (.item hzero
        (.field (hlist _) (.item hzero (.field (hnone _) .here)))))))
  obtain ⟨decoded, hdecoded⟩ : ∃ decoded, payload? textAtMarker = .ok decoded := ⟨_, rfl⟩
  have hother := (payload?_of_respelled hdecoded (.tail (.tail (.single hown) hmarker) hline)).1
  refine ⟨decoded, hdecoded, hother, ?_⟩
  obtain rfl : _ = decoded := Except.ok.inj hdecoded
  exact ⟨rfl, rfl⟩

end CodeReview.Decode
