import CodeReview.Collection
import CodeReview.Payload.Location
import CodeReview.Suggestion

/-!
# CodeReview.Payload.Collect

From the threads of a payload to comments. A thread is left out for the first of these
reasons that applies: it is resolved, it has no place, it has no messages. Otherwise each
of its messages becomes one comment at the place of the thread, except that a message
that suggests a change of certain lines speaks of those lines.
-/

namespace CodeReview

/-- The comment that a message at a place makes. -/
def Message.comment (place : Place) (message : Message) : Comment :=
  let suggestion := Suggestion.ofBody? message.formatted
  { path := place.path
    anchor := (suggestion.range.map (Anchor.of none)).getD place.anchor
    marker := place.marker
    author := message.authorName
    body := message.body.getD ""
    change := suggestion.change
    createdAt := message.createdAt }

/-- What becomes of a thread of a payload. -/
def Thread.fate (places : PlaceTable) (thread : Thread) : Fate :=
  if thread.resolved then .resolved
  else
    match places[thread.id]? with
    | none => .unlocated
    | some place =>
      if thread.messages.isEmpty then .empty
      else .kept (thread.messages.map (Message.comment place))

/-- What is collected from threads whose places are known. -/
def collectThreads (places : PlaceTable) (threads : List Thread) : Collected :=
  .ofFates (threads.map (Thread.fate places))

/-- What is collected from a payload. -/
def Payload.collect (payload : Payload) : Collected :=
  collectThreads (placesOf payload.files) payload.threads

end CodeReview
