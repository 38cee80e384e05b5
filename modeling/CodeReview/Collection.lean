import CodeReview.Comment

/-!
# CodeReview.Collection

Comments gathered by file. Files stand in the order in which they were first
commented, the comments of a file in the order in which they came.
-/

namespace CodeReview

/-- The comments of one file. -/
structure FileComments where
  path : String
  comments : List Comment
deriving DecidableEq, Repr

/-- Adds a comment behind the others of its file, or opens the file at the end. -/
def pushInto (comment : Comment) : List FileComments → List FileComments
  | [] => [⟨comment.path, [comment]⟩]
  | file :: files =>
    if file.path = comment.path then
      { file with comments := file.comments ++ [comment] } :: files
    else
      file :: pushInto comment files

/-- Comments by file, files in first-seen order. -/
structure Collection where
  files : List FileComments
deriving DecidableEq, Repr

namespace Collection

/-- No comments. -/
def empty : Collection := ⟨[]⟩

instance : EmptyCollection Collection := ⟨empty⟩

/-- The collection with one more comment. -/
def push (collection : Collection) (comment : Comment) : Collection :=
  ⟨pushInto comment collection.files⟩

/-- The collection of a sequence of comments. -/
def ofList (comments : List Comment) : Collection := comments.foldl push ∅

@[simp] theorem files_empty : (∅ : Collection).files = [] := rfl

@[simp] theorem files_push (collection : Collection) (comment : Comment) :
    (collection.push comment).files = pushInto comment collection.files := rfl

@[simp] theorem ofList_nil : ofList [] = ∅ := rfl

theorem ofList_append_singleton (comments : List Comment) (comment : Comment) :
    ofList (comments ++ [comment]) = (ofList comments).push comment := by
  simp [ofList, List.foldl_append]

/-- The number of commented files. -/
def fileCount (collection : Collection) : Nat := collection.files.length

/-- All comments, file by file. -/
def comments (collection : Collection) : List Comment := collection.files.flatMap (·.comments)

/-- The number of comments. -/
def commentCount (collection : Collection) : Nat := collection.comments.length

/-- Nothing was pushed. -/
def isEmpty (collection : Collection) : Bool := collection.files.isEmpty

end Collection

/-! ### What becomes of threads -/

/-- What becomes of a thread. -/
inductive Fate
  /-- It is left out because it is resolved. -/
  | resolved
  /-- It is left out because nothing says where it belongs. -/
  | unlocated
  /-- It is left out because it says nothing. -/
  | empty
  /-- Its comments are collected. -/
  | kept (comments : List Comment)
deriving DecidableEq, Repr

/-- The comments that are collected from a thread. -/
def Fate.comments : Fate → List Comment
  | kept comments => comments
  | _ => []

/-- The account of the threads of a review. -/
structure Tally where
  /-- Threads looked at. -/
  seen : Nat := 0
  resolved : Nat := 0
  unlocated : Nat := 0
  empty : Nat := 0
  /-- Comments that were collected. -/
  emitted : Nat := 0
deriving DecidableEq, Repr

/-- Enters one more thread into the account. -/
def Tally.enter (tally : Tally) (fate : Fate) : Tally :=
  let tally := { tally with seen := tally.seen + 1 }
  match fate with
  | .resolved => { tally with resolved := tally.resolved + 1 }
  | .unlocated => { tally with unlocated := tally.unlocated + 1 }
  | .empty => { tally with empty := tally.empty + 1 }
  | .kept comments => { tally with emitted := tally.emitted + comments.length }

/-- Collected comments together with the account of the threads they came from. -/
structure Collected where
  comments : Collection := ∅
  tally : Tally := {}
deriving DecidableEq, Repr

namespace Collected

/-- Takes in one more thread. -/
def take (collected : Collected) (fate : Fate) : Collected :=
  ⟨fate.comments.foldl Collection.push collected.comments, collected.tally.enter fate⟩

/-- What is collected from a list of threads. -/
def ofFates (fates : List Fate) : Collected := fates.foldl take {}

@[simp] theorem ofFates_nil : ofFates [] = {} := rfl

theorem ofFates_append_singleton (fates : List Fate) (fate : Fate) :
    ofFates (fates ++ [fate]) = (ofFates fates).take fate := by
  simp [ofFates, List.foldl_append]

/-- The threads come one after another, and so do their comments. -/
theorem comments_ofFates (fates : List Fate) :
    (ofFates fates).comments = .ofList (fates.flatMap Fate.comments) := by
  have key : ∀ collected : Collected, (fates.foldl take collected).comments =
      (fates.flatMap Fate.comments).foldl Collection.push collected.comments := by
    induction fates with
    | nil => intro collected; rfl
    | cons fate fates ih =>
      intro collected
      rw [List.foldl_cons, ih, List.flatMap_cons, List.foldl_append]
      rfl
  exact key {}

end Collected

end CodeReview
