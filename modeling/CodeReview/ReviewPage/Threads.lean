import CodeReview.Collection
import CodeReview.Html.Page
import CodeReview.ReviewPage.LinePhrase
import CodeReview.Suggestion

/-!
# CodeReview.ReviewPage.Threads

Threads in the markup of a page. Each thread is an element and makes at most one
comment. What it says stands inside it; where it belongs is told by what is around it:

* the file by the nearest element of the class of files;
* the lines by a phrase in the text of the thread, else by the number cell of the
  row before the row that the thread is in.
-/

namespace CodeReview.ReviewPage

open Html Text

/-! ### Names -/

/-- The class of threads. -/
def threadClass : String := "review-thread-component"

/-- The class of files. -/
def fileClass : String := "file"

/-- The class of the rows that hold threads. -/
def threadRowClass : String := "inline-comments"

/-- The class of what is said. -/
def bodyClass : String := "comment-body"

/-- The class of who says it. -/
def authorClass : String := "author"

/-- The attribute of a thread that tells whether it is resolved. -/
def resolvedAttribute : String := "data-resolved"

/-- The attribute of a file that tells its path. -/
def pathAttribute : String := "data-tagsearch-path"

/-- The attribute of a number cell that tells its line. -/
def lineAttribute : String := "data-line-number"

variable {ι : Type} (page : Page ι)

/-! ### Parts of a thread -/

/-- The thread is resolved. -/
def isResolved (thread : ι) : Bool := page.attribute? thread resolvedAttribute == some "true"

/-- The text of the first element of a class in a thread. -/
def textOf? (name : String) (thread : ι) : Option String :=
  (page.firstOfClass? thread name).map page.trimmedText

/-- What is said in a thread. -/
def body (thread : ι) : String := (textOf? page bodyClass thread).getD ""

/-- Who says it. -/
def author (thread : ι) : String := (textOf? page authorClass thread).getD unknownAuthor

/-- The change that the first block of suggested changes in a thread makes up. -/
def change? (thread : ι) : Option CodeChange :=
  (page.firstOfClass? thread Suggestion.blockClass).bind fun block =>
    Suggestion.changeOfCells page (page.inner block)

/-! ### The place of a thread -/

/-- The path of the file that a thread is in. A nearest file without a path hides
those around it. -/
def path? (thread : ι) : Option String :=
  ((page.closest? (page.hasClass · fileClass) thread).bind
    (page.attribute? · pathAttribute)).filter (· ≠ "")

/-- A row that holds threads. -/
def isThreadRow (element : ι) : Bool :=
  page.name element == "tr" && page.hasClass element threadRowClass

/-- The line of the first number cell in a row. -/
def lineOfRow? (row : ι) : Option LineNumber :=
  ((page.inner row).findSome? (page.attribute? · lineAttribute)).bind fun line =>
    signedLineNumber? (trim line.toList)

/-- The line of the row before the row that a thread is in. -/
def rowLine? (thread : ι) : Option LineNumber :=
  ((page.closest? (isThreadRow page) thread).bind page.previous?).bind (lineOfRow? page)

/-- The lines that a thread speaks of. -/
def anchor? (thread : ι) : Option Anchor :=
  match phraseRange? (page.chars thread) with
  | some range => some (.of none range)
  | none => (rowLine? page thread).map .line

/-! ### Threads of a page -/

/-- What becomes of a thread of a page. -/
def fate (thread : ι) : Fate :=
  if isResolved page thread then .resolved
  else
    match path? page thread with
    | none => .unlocated
    | some path =>
      let body := body page thread
      if body = "" then .empty
      else
        match anchor? page thread with
        | none => .unlocated
        | some anchor =>
          .kept [{
            path
            anchor
            marker := none
            author := author page thread
            body
            change := change? page thread
            createdAt := none }]

/-- The threads of a page. -/
def threads : List ι := page.elements.filter (page.hasClass · threadClass)

/-- The page has a thread. -/
def hasThreads : Bool := !(threads page).isEmpty

/-- What is collected from the markup of a page. -/
def collect : Collected := .ofFates ((threads page).map (fate page))

/-! ### The payload in a page -/

/-- A script that holds a payload. -/
def isPayloadScript (element : ι) : Bool :=
  page.name element == "script" &&
    page.attribute? element "data-target" == some "react-app.embeddedData"

/-- The text of the first script that holds a payload. -/
def payloadText? : Option String :=
  (page.elements.find? (isPayloadScript page)).map fun script =>
    String.ofList (page.chars script)

end CodeReview.ReviewPage
