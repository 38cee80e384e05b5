import CodeReview.Anchor
import CodeReview.Text.Blank
import CodeReview.Text.DecimalDigit

/-!
# CodeReview.ReviewPage.LinePhrase

The phrase by which a thread says that it speaks of several lines: *Comment on lines
+10 to +14*. Upper and lower case are the same, blanks may be any and as many as one
likes, the signs of the numbers carry no meaning.

The first phrase of a text counts. If its numbers are no line numbers, the text says
nothing, whatever follows.
-/

namespace CodeReview.ReviewPage

open Text

/-- The character is the given small letter in either case. The long `ſ` is an `s`. -/
def isLetter (letter c : Char) : Bool := c.toLower == letter || (letter == 's' && c == 'ſ')

/-- What follows a word, given in small letters, if the text starts with it. -/
def afterWord? : (word : List Char) → List Char → Option (List Char)
  | [], text => some text
  | _ :: _, [] => none
  | letter :: word, c :: text => if isLetter letter c then afterWord? word text else none

/-- What follows the blanks that the text starts with, of which there is at least one. -/
def afterBlanks? : List Char → Option (List Char)
  | [] => none
  | c :: text => if isBlank c then some (trimStart text) else none

/-- What follows the sign that the text may start with. -/
def afterSign : List Char → List Char
  | '+' :: text | '-' :: text => text
  | text => text

/-- The digits that a text starts with, of which there is at least one, and what
follows. -/
def digits? (text : List Char) : Option (List Char × List Char) :=
  let digits := text.takeWhile isDecimalDigit
  if digits.isEmpty then none else some (digits, text.dropWhile isDecimalDigit)

/-- The digits of the two numbers of the phrase that a text starts with. -/
def phraseAt? (text : List Char) : Option (List Char × List Char) := do
  let text ← afterWord? "comment on line".toList text
  let text ← afterBlanks? ((afterWord? ['s'] text).getD text)
  let (first, text) ← digits? (afterSign text)
  let text ← afterBlanks? text
  let text ← afterWord? "to".toList text
  let text ← afterBlanks? text
  let (last, _) ← digits? (afterSign text)
  return (first, last)

/-- The digits of the two numbers of the first phrase in a text. -/
def phrase? : List Char → Option (List Char × List Char)
  | [] => none
  | c :: text =>
    match phraseAt? (c :: text) with
    | some numbers => some numbers
    | none => phrase? text

/-- The lines that the first phrase in a text speaks of. -/
def phraseRange? (text : List Char) : Option LineRange := do
  let (first, last) ← phrase? text
  return ⟨← lineNumber? first, ← lineNumber? last⟩

/-- A text in which no phrase starts at the first character speaks as its rest does. -/
theorem phrase?_cons_of_none {c : Char} {text : List Char} (h : phraseAt? (c :: text) = none) :
    phrase? (c :: text) = phrase? text := by
  simp [phrase?, h]

end CodeReview.ReviewPage
