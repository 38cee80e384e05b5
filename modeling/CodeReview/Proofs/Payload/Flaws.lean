import CodeReview.Proofs.Payload.Shape

/-!
# CodeReview.Proofs.Payload.Flaws

Which values are no payloads, and what is said of them. `Flaw` lists what can be wrong with the
outermost shape of a value, with the failure that each flaw is called by; the order in which
flaws are looked for is in the premises. Reading a payload fails exactly for the values with a
flaw (`payload?_fails_iff`).

A value without one has the shape of a payload (`hasShape_or_flaw`), and nothing below that shape
is a flaw.
-/

namespace CodeReview.Decode

open Json

/-! ### Bodies and flaws -/

/-- The object in which a root holds its threads and its file summaries. -/
inductive Body : Value → Fields → Prop
  /-- The object under the key `payload`, whatever else the root holds. -/
  | wrapped {root inner : Fields} :
      Fields.get? root "payload" = some (.object inner) → Body (.object root) inner
  /-- The root itself, which has at least one of the fields that count. -/
  | bare {root : Fields} {name : String} :
      Fields.get? root "payload" = none → name ∈ ["threads", "diffSummaries"] →
      Fields.get? root name ≠ none → Body (.object root) root

/-- What is wrong with the outermost shape of a root, and how it is called. -/
inductive Flaw : Value → PayloadFailure → Prop
  | rootNoObject {root : Value} : (∀ fields, root ≠ .object fields) → Flaw root .missingPayload
  | nothingThere {root : Fields} :
      (∀ name ∈ ["payload", "threads", "diffSummaries"], Fields.get? root name = none) →
      Flaw (.object root) .missingPayload
  | payloadNoObject {root : Fields} {value : Value} :
      Fields.get? root "payload" = some value → (∀ fields, value ≠ .object fields) →
      Flaw (.object root) (.invalidField "payload" "an object")
  | noThreads {root : Value} {body : Fields} :
      Body root body → Fields.get? body "threads" = none →
      Flaw root (.missingField "threads")
  | threadsNoObject {root : Value} {body : Fields} {value : Value} :
      Body root body → Fields.get? body "threads" = some value →
      (∀ fields, value ≠ .object fields) → Flaw root (.invalidField "threads" "an object")
  | noSummaries {root : Value} {body threads : Fields} :
      Body root body → Fields.get? body "threads" = some (.object threads) →
      Fields.get? body "diffSummaries" = none → Flaw root (.missingField "diffSummaries")
  | summariesNoArray {root : Value} {body threads : Fields} {value : Value} :
      Body root body → Fields.get? body "threads" = some (.object threads) →
      Fields.get? body "diffSummaries" = some value → (∀ items, value ≠ .array items) →
      Flaw root (.invalidField "diffSummaries" "an array")

/-! ### Each flaw is found -/

theorem Body.body?_eq {root : Value} {body : Fields} (h : Body root body) :
    body? root = .ok body := by
  cases h with
  | wrapped hpayload => rw [body?, hpayload]
  | bare hpayload hname hfield =>
    have hhas : (Fields.has body "threads" || Fields.has body "diffSummaries") = true := by
      rw [Bool.or_eq_true, Fields.has, Fields.has, Option.isSome_iff_ne_none,
        Option.isSome_iff_ne_none]
      rcases List.mem_pair.mp hname with rfl | rfl
      · exact .inl hfield
      · exact .inr hfield
    rw [body?, hpayload]
    exact if_pos hhas

/-- Roots that have the same body are read alike. -/
theorem payload?_eq_of_body {root other : Value} {body : Fields} (h : Body root body)
    (h' : Body other body) : payload? root = payload? other := by
  rw [payload?, payload?, h.body?_eq, h'.body?_eq]

theorem payload?_of_body?_eq_error {root : Value} {cause : PayloadFailure}
    (h : body? root = .error cause) : payload? root = .error cause := by
  rw [payload?, h]
  rfl

theorem Flaw.payload?_eq {root : Value} {cause : PayloadFailure} (h : Flaw root cause) :
    payload? root = .error cause := by
  cases h with
  | rootNoObject hroot =>
    refine payload?_of_body?_eq_error ?_
    cases root with
    | object fields => exact absurd rfl (hroot fields)
    | _ => rfl
  | @nothingThere fields hnone =>
    refine payload?_of_body?_eq_error ?_
    rw [body?, hnone "payload" (by simp)]
    refine if_neg ?_
    rw [Fields.has, Fields.has, hnone "threads" (by simp), hnone "diffSummaries" (by simp)]
    exact Bool.false_ne_true
  | payloadNoObject hpayload hvalue =>
    refine payload?_of_body?_eq_error ?_
    rw [body?, hpayload]
    split
    case h_1 inner heq => exact absurd (Option.some.inj heq) (hvalue inner)
    case h_2 => rfl
    case h_3 heq => cases heq
  | noThreads hbody hthreads =>
    simp only [payload?, hbody.body?_eq, hthreads, bind, Except.bind]
  | threadsNoObject hbody hthreads hvalue =>
    simp only [payload?, hbody.body?_eq, hthreads, bind, Except.bind]
  | noSummaries hbody hthreads hsummaries =>
    simp only [payload?, hbody.body?_eq, hthreads, hsummaries, bind, Except.bind]
  | summariesNoArray hbody hthreads hsummaries hvalue =>
    simp only [payload?, hbody.body?_eq, hthreads, hsummaries, bind, Except.bind]

/-! ### Without a flaw there is a shape -/

theorem body_or_flaw (root : Value) : (∃ body, Body root body) ∨ ∃ cause, Flaw root cause := by
  by_cases hroot : ∃ fields, root = .object fields
  case neg => exact .inr ⟨_, .rootNoObject (not_exists.mp hroot)⟩
  obtain ⟨fields, rfl⟩ := hroot
  cases hpayload : Fields.get? fields "payload" with
  | some value =>
    by_cases hvalue : ∃ inner, value = .object inner
    · obtain ⟨inner, rfl⟩ := hvalue
      exact .inl ⟨inner, .wrapped hpayload⟩
    · exact .inr ⟨_, .payloadNoObject hpayload (not_exists.mp hvalue)⟩
  | none =>
    by_cases hfield : ∃ name ∈ ["threads", "diffSummaries"], Fields.get? fields name ≠ none
    · obtain ⟨name, hname, hsome⟩ := hfield
      exact .inl ⟨fields, .bare hpayload hname hsome⟩
    · refine .inr ⟨_, .nothingThere fun name hname => ?_⟩
      rcases List.mem_cons.mp hname with rfl | hname
      · exact hpayload
      · exact Decidable.not_not.mp fun hsome => hfield ⟨name, hname, hsome⟩

theorem hasShape_or_flaw (root : Value) :
    (∃ body threadFields summaries, Body root body ∧ HasShape root body threadFields summaries) ∨
      ∃ cause, Flaw root cause := by
  rcases body_or_flaw root with ⟨body, hbody⟩ | hflaw
  case inr => exact .inr hflaw
  cases hthreads : Fields.get? body "threads" with
  | none => exact .inr ⟨_, .noThreads hbody hthreads⟩
  | some threads =>
    by_cases hobject : ∃ fields, threads = .object fields
    case neg => exact .inr ⟨_, .threadsNoObject hbody hthreads (not_exists.mp hobject)⟩
    obtain ⟨threadFields, rfl⟩ := hobject
    cases hsummaries : Fields.get? body "diffSummaries" with
    | none => exact .inr ⟨_, .noSummaries hbody hthreads hsummaries⟩
    | some summaries =>
      by_cases harray : ∃ items, summaries = .array items
      case neg =>
        exact .inr ⟨_, .summariesNoArray hbody hthreads hsummaries (not_exists.mp harray)⟩
      obtain ⟨items, rfl⟩ := harray
      exact .inl ⟨body, threadFields, items, hbody, hbody.body?_eq, hthreads, hsummaries⟩

/-! ### Reading -/

/-- **Reading a payload fails exactly for a flaw in the outermost shape**, and the failure says
which. Every other value is read, whatever its threads and its file summaries hold. -/
theorem payload?_fails_iff (root : Value) :
    (∀ cause, payload? root = .error cause ↔ Flaw root cause) ∧
      ((∃ decoded, payload? root = .ok decoded) ↔
        ∃ body threadFields summaries, Body root body ∧
          Fields.get? body "threads" = some (.object threadFields) ∧
          Fields.get? body "diffSummaries" = some (.array summaries)) := by
  have hreads : ∀ {body threadFields summaries}, HasShape root body threadFields summaries →
      payload? root = .ok (contents threadFields summaries) :=
    fun hshape => payload?_eq_ok_iff.mpr ⟨_, _, _, hshape, rfl⟩
  refine ⟨fun cause => ⟨fun h => ?fails, Flaw.payload?_eq⟩, fun ⟨decoded, h⟩ => ?shape, ?reads⟩
  case fails =>
    rcases hasShape_or_flaw root with ⟨_, _, _, -, hshape⟩ | ⟨other, hflaw⟩
    · rw [hreads hshape] at h
      cases h
    · rw [hflaw.payload?_eq] at h
      exact Except.error.inj h ▸ hflaw
  case shape =>
    rcases hasShape_or_flaw root with ⟨body, threadFields, summaries, hbody, hshape⟩ | ⟨_, hflaw⟩
    · exact ⟨body, threadFields, summaries, hbody, hshape.threads, hshape.summaries⟩
    · rw [hflaw.payload?_eq] at h
      cases h
  case reads =>
    rintro ⟨body, threadFields, summaries, hbody, hthreads, hsummaries⟩
    exact ⟨_, hreads ⟨hbody.body?_eq, hthreads, hsummaries⟩⟩

/-- A root that would be read is not, when it has a payload that is no object. -/
example : payload? (.object [
    ("threads", .object []), ("diffSummaries", .array []), ("payload", .null)]) =
      .error (.invalidField "payload" "an object") := rfl

end CodeReview.Decode
