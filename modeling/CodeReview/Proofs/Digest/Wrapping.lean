import CodeReview.Proofs.Digest.Detection
import CodeReview.Proofs.Payload.Flaws

/-!
# CodeReview.Proofs.Digest.Wrapping

A payload may be wrapped: it may stand under the key `payload` of an object. What else that object
holds is not looked at, so the wrapped payload is read as the bare one, whether it is read at all
or fails, and the documents make the same report.

All that is read of a root is its body, and both roots have the same one.
-/

namespace CodeReview.Decode

open Json

/-- **A payload is the same wrapped and bare.** Let an object without the key `payload` have one of
the fields of a payload. Any object that holds it under the key `payload` is read as it is, with
the same threads and files in the same order, the same warnings, or the same failure. So unless
markup is asked for, texts of the two make the same report, or fail alike. -/
theorem payload?_wrapped_eq_bare {root body : Fields} {name : String}
    (hwrapped : Fields.get? root "payload" = some (.object body))
    (hbare : Fields.get? body "payload" = none) (hname : name ∈ ["threads", "diffSummaries"])
    (hfield : Fields.get? body name ≠ none) :
    payload? (.object root) = payload? (.object body) ∧
      ∀ wrapped bare mode, Json.read wrapped = .ok (.object root) →
        Json.read bare = .ok (.object body) → mode ≠ .markup →
        Digest.ofDocument wrapped mode = Digest.ofDocument bare mode := by
  have hsame := payload?_eq_of_body (.wrapped hwrapped) (.bare hbare hname hfield)
  refine ⟨hsame, fun wrapped bare mode hreadWrapped hreadBare hmode => ?_⟩
  rw [Digest.ofDocument, Digest.ofDocument,
    Source.ofDocument_eq_of_payload?_eq hreadWrapped hreadBare hsame hmode]

/-- A payload with one thread. -/
def bareText : String := "\x7b\"diffSummaries\": [], \"threads\": \x7b\"1\": []\x7d\x7d"

/-- What it is read as. -/
def bareBody : Fields := [("diffSummaries", .array []), ("threads", .object [("1", .array [])])]

/-- The payload in an object that has other threads, which are no object. -/
def wrappedText : String := "\x7b\"threads\": 0, \"payload\": " ++ bareText ++ "\x7d"

/-- What that is read as. -/
def wrappedRoot : Fields :=
  [("threads", .number (.integer 0)), ("payload", .object bareBody)]

/-- The thread of the payload is read, and what is around the payload does not count. Nor does it
make up for threads that a payload lacks. -/
theorem payload?_wrapped_eq_bare_wrappedText :
    Json.read wrappedText = .ok (.object wrappedRoot) ∧
      Json.read bareText = .ok (.object bareBody) ∧
      payload? (.object wrappedRoot) = .ok ⟨⟨[⟨"1", none, false, []⟩], []⟩, []⟩ ∧
      Digest.ofDocument wrappedText .auto = Digest.ofDocument bareText .auto ∧
      payload? (.object [("threads", .object []),
        ("payload", .object [("diffSummaries", .array [])])]) = .error (.missingField "threads") := by
  have hwrapped : Json.read wrappedText = .ok (.object wrappedRoot) := rfl
  have hbare : Json.read bareText = .ok (.object bareBody) := rfl
  have hnames : "diffSummaries" ∈ ["threads", "diffSummaries"] := by decide
  obtain ⟨hsame, htexts⟩ := @payload?_wrapped_eq_bare wrappedRoot bareBody _ rfl rfl hnames
    (Option.some_ne_none _)
  refine ⟨hwrapped, hbare, hsame, htexts _ _ .auto hwrapped hbare (by decide), ?_⟩
  exact (@payload?_wrapped_eq_bare _ [("diffSummaries", .array [])] _ rfl rfl hnames
    (Option.some_ne_none _)).1

end CodeReview.Decode
