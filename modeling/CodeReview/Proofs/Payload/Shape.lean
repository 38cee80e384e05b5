import CodeReview.Payload.Decode
import Mathlib.Data.List.Basic

/-!
# CodeReview.Proofs.Payload.Shape

What is read of a payload. The outermost shape decides whether a value is a payload at all
(`payload?_eq_ok_iff`). Below it nothing fails: of its threads and its file summaries the ones
that can be read are kept, each on its own.
-/

namespace CodeReview.Decode

open Json

/-! ### Parts on their own -/

namespace Reading

variable {α β : Type}

/-- Of parts that are read one by one the well-formed ones are kept. -/
theorem kept_each_ofRecord (kind : RecordKind) (key : β → String) (read : β → Option α)
    (parts : List β) :
    (each (fun part => ofRecord kind (key part) (read part)) parts).kept =
      parts.filterMap read := by
  rw [List.filterMap_eq_flatMap_toList]
  have hpart (part : β) : (ofRecord kind (key part) (read part)).kept = (read part).toList := by
    cases read part <;> rfl
  exact congrArg parts.flatMap (funext hpart)

end Reading

theorem kept_threads (fields : Fields) :
    (threads fields).kept = fields.filterMap fun (key, value) => thread? key value :=
  Reading.kept_each_ofRecord _ Prod.fst _ fields

theorem kept_markers (fields : Fields) :
    (markers (some (.object fields))).kept =
      fields.filterMap fun (marker, value) => marker? marker value :=
  Reading.kept_each_ofRecord _ Prod.fst _ fields

theorem kept_diffLines (items : List Value) :
    (diffLines (some (.array items))).kept = items.filterMap diffLine? := by
  have hitems : items.zipIdx.map Prod.fst = items := List.zipIdx_map_fst 0 items
  conv_rhs => rw [← hitems, List.filterMap_map]
  exact Reading.kept_each_ofRecord .diffLine (fun item => Nat.repr item.2)
    (fun item => diffLine? item.1) items.zipIdx

/-- A file summary that is an object with a path makes a file. -/
theorem kept_file (fields : Fields) :
    (file (.object fields)).kept = (path? fields).toList.map fun path =>
      ⟨path, (markers (Fields.get? fields "markersMap")).kept,
        (diffLines (Fields.get? fields "diffLines")).kept⟩ := by
  rw [file]
  cases path? fields <;> rfl

theorem payload_contents (threadFields : Fields) (summaries : List Value) :
    (contents threadFields summaries).payload =
      ⟨threadFields.filterMap fun (key, value) => thread? key value,
        summaries.flatMap fun summary => (file summary).kept⟩ := by
  rw [← kept_threads]
  rfl

/-! ### The outermost shape -/

/-- The value has the shape of a payload: its body holds an object of threads and an array of
file summaries. -/
structure HasShape (root : Value) (body threadFields : Fields) (summaries : List Value) :
    Prop where
  holds : body? root = .ok body
  threads : Fields.get? body "threads" = some (.object threadFields)
  summaries : Fields.get? body "diffSummaries" = some (.array summaries)

/-- A payload is read exactly if the value has the shape of one. -/
theorem payload?_eq_ok_iff {root : Value} {decoded : Decoded} :
    payload? root = .ok decoded ↔
      ∃ body threadFields summaries, HasShape root body threadFields summaries ∧
        decoded = contents threadFields summaries := by
  constructor
  · intro h
    rw [payload?] at h
    dsimp only [bind, Except.bind] at h
    cases hbody : body? root with
    | error cause =>
      rw [hbody] at h
      cases h
    | ok body =>
      rw [hbody] at h
      dsimp only at h
      generalize hthreads : Fields.get? body "threads" = threads at h
      generalize hsummaries : Fields.get? body "diffSummaries" = summaries at h
      -- Every other shape of the two fields is an error.
      rcases threads with _ | (_ | _ | _ | _ | _ | threadFields)
      case some.object =>
        rcases summaries with _ | (_ | _ | _ | _ | summaries | _)
        case some.array =>
          exact ⟨body, threadFields, summaries, ⟨hbody, hthreads, hsummaries⟩,
            (Except.ok.inj h).symm⟩
        all_goals cases h
      all_goals cases h
  · rintro ⟨body, threadFields, summaries, hshape, rfl⟩
    rw [payload?]
    dsimp only [bind, Except.bind]
    rw [hshape.holds]
    dsimp only
    rw [hshape.threads]
    dsimp only
    rw [hshape.summaries]
    rfl

/-- Only an object is read as a payload. -/
theorem eq_object_of_payload? {root : Value} {decoded : Decoded}
    (h : payload? root = .ok decoded) : ∃ fields, root = .object fields := by
  cases root with
  | object fields => exact ⟨fields, rfl⟩
  | _ => cases h

theorem text?_of_read {text : String} {root : Value} (h : Json.read text = .ok root) :
    text? text = payload? root := by
  rw [text?, h]

theorem text?_eq_ok_iff {text : String} {decoded : Decoded} :
    text? text = .ok decoded ↔
      ∃ root, Json.read text = .ok root ∧ payload? root = .ok decoded := by
  unfold text?
  cases Json.read text <;> simp

end CodeReview.Decode
