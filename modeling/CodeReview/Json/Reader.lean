import CodeReview.Json.Value

/-!
# CodeReview.Json.Reader

Reading JSON texts. The reader is a machine that takes one character at a time:
what it still has to finish is a stack of open containers, innermost first, and
what may come next at the innermost one. Reading a text is a fold of `State.step`
over its characters, so a text can be cut anywhere and read in parts.

Design points:

* Blanks are space, tab, line feed and carriage return, and no other character.
* Containers may be nested to a depth of 127.
* Failing is a state that no character leaves. A text that ends in any other
  unfinished state is merely too short, and the two faults are told apart
  (`Fault`).
* Text after a complete value is a fault too, but the value is kept, since a reader
  that wants a certain kind of value looks at it first.
-/

namespace CodeReview.Json

/-- Why a text is no JSON. -/
inductive Fault
  /-- A character that no JSON text has at this place, or a number out of range. -/
  | malformed
  /-- The text ends before the value does. -/
  | unfinished
deriving DecidableEq, Repr

/-- White space between the tokens of a JSON text. -/
def isSpace (c : Char) : Bool := c == ' ' || c == '\t' || c == '\n' || c == '\r'

/-! ### Spots -/

/-- Inside a string, where the last characters stand. -/
inductive Escape
  /-- Outside every escape. -/
  | outside
  /-- Behind a backslash. -/
  | backslash
  /-- In the four hexadecimal digits of an escape. `bytes` counts the bytes read of
  them, `code` is their value while they are digits, and `lead` is the leading half
  of a surrogate pair that they have to complete. -/
  | hex (bytes : Nat) (code : Option Nat) (lead : Option Nat)
  /-- Behind a leading surrogate: a backslash has to follow. -/
  | pair (lead : Nat)
  /-- Behind a leading surrogate and a backslash. -/
  | pairBackslash (lead : Nat)
deriving DecidableEq, Repr

/-- A number literal, where the last characters stand. -/
inductive NumberPart
  /-- Behind the minus sign. -/
  | sign
  /-- Behind a leading zero. -/
  | zero
  /-- In the digits before the point. -/
  | whole
  /-- Behind the point. -/
  | point
  /-- In the digits behind the point. -/
  | fraction
  /-- Behind the letter of the exponent. -/
  | mark
  /-- Behind the sign of the exponent. -/
  | markSign
  /-- In the digits of the exponent. -/
  | exponent
deriving DecidableEq, Repr

/-- A literal may end behind this part. -/
def NumberPart.mayEnd : NumberPart → Bool
  | zero | whole | fraction | exponent => true
  | sign | point | mark | markSign => false

/-- A number literal as far as it is read; all digits stand last first. -/
structure Digits where
  negative : Bool := false
  whole : List Char := []
  fraction : List Char := []
  minus : Bool := false
  exponent : List Char := []
deriving DecidableEq, Repr

/-- The literal that has been read. -/
def Digits.literal (digits : Digits) : Numeral where
  negative := digits.negative
  whole := digits.whole.reverse
  fraction := if digits.fraction.isEmpty then none else some digits.fraction.reverse
  exponent :=
    if digits.exponent.isEmpty then none else some (digits.minus, digits.exponent.reverse)

/-- An open container. -/
inductive Frame
  /-- An array with the items read so far, last first. -/
  | array (items : List Value)
  /-- An object with the fields read so far, and the key whose value comes next. -/
  | object (fields : Fields) (key : String)

/-- What comes next. -/
inductive Spot
  /-- A value. -/
  | value
  /-- The first item of an array, or its end. -/
  | firstItem
  /-- The first key of an object, or its end. -/
  | firstKey
  /-- A key behind a comma. -/
  | key
  /-- The colon behind a key. -/
  | colon
  /-- A comma, or the end of the container. -/
  | next
  /-- More of a string, of which the letters so far stand last first. -/
  | string (isKey : Bool) (letters : List Char) (escape : Escape)
  /-- More of a word that stands for a value. -/
  | word (rest : List Char) (value : Value)
  /-- More of a number. -/
  | number (digits : Digits) (part : NumberPart)

/-- What has been read. -/
inductive State
  /-- A value that is not complete. -/
  | reading (stack : List Frame) (spot : Spot)
  /-- A value, and perhaps blanks behind it. -/
  | complete (value : Value)
  /-- A value with text behind it. -/
  | surplus (value : Value)
  /-- No beginning of a JSON text. -/
  | failed

namespace State

/-- Before the first character. -/
def start : State := reading [] .value

/-- The greatest depth of open containers. -/
def greatestDepth : Nat := 127

/-! ### Values -/

/-- A value is complete: it goes to the innermost container. -/
def finish (value : Value) : List Frame → State
  | [] => complete value
  | .array items :: stack => reading (.array (value :: items) :: stack) .next
  | .object fields key :: stack => reading (.object (fields.put key value) key :: stack) .next

/-- A container opens. -/
def openFrame (frame : Frame) (spot : Spot) (stack : List Frame) : State :=
  if stack.length < greatestDepth then reading (frame :: stack) spot else failed

/-- The first character of a value. -/
def beginValue (stack : List Frame) (c : Char) : State :=
  if c = '"' then reading stack (.string false [] .outside)
  else if c = '[' then openFrame (.array []) .firstItem stack
  else if c = '\x7b' then openFrame (.object [] "") .firstKey stack
  else if c = 't' then reading stack (.word "rue".toList (.bool true))
  else if c = 'f' then reading stack (.word "alse".toList (.bool false))
  else if c = 'n' then reading stack (.word "ull".toList .null)
  else if c = '-' then reading stack (.number { negative := true } .sign)
  else if c = '0' then reading stack (.number { whole := ['0'] } .zero)
  else if c.isDigit then reading stack (.number { whole := [c] } .whole)
  else failed

/-- The character behind a value: blanks stay there, a comma goes on, and a bracket
closes the innermost container. -/
def afterValue (state : State) (c : Char) : State :=
  match state with
  | complete value => if isSpace c then complete value else surplus value
  | reading (.array items :: stack) .next =>
    if isSpace c then state
    else if c = ',' then reading (.array items :: stack) .value
    else if c = ']' then finish (.array items.reverse) stack
    else failed
  | reading (.object fields key :: stack) .next =>
    if isSpace c then state
    else if c = ',' then reading (.object fields key :: stack) .key
    else if c = '\x7d' then finish (.object fields) stack
    else failed
  | _ => failed

/-! ### Strings -/

/-- A key is complete: the innermost object waits for its value. -/
def finishKey (key : String) : List Frame → State
  | .object fields _ :: stack => reading (.object fields key :: stack) .colon
  | _ => failed

/-- The string is complete. -/
def finishString (stack : List Frame) (isKey : Bool) (letters : List Char) : State :=
  let text := String.ofList letters.reverse
  if isKey then finishKey text stack else finish (.string text) stack

/-- The character that a letter behind a backslash stands for. -/
def escaped? (c : Char) : Option Char :=
  if c = '"' ∨ c = '\\' ∨ c = '/' then some c
  else if c = 'b' then some '\x08'
  else if c = 'f' then some '\x0c'
  else if c = 'n' then some '\n'
  else if c = 'r' then some '\r'
  else if c = 't' then some '\t'
  else none

/-- The value of a hexadecimal digit. -/
def hexDigit? (c : Char) : Option Nat :=
  if c.isDigit then some (c.toNat - 48)
  else if 'a' ≤ c ∧ c ≤ 'f' then some (c.toNat - 87)
  else if 'A' ≤ c ∧ c ≤ 'F' then some (c.toNat - 55)
  else none

/-- An escape of four hexadecimal digits is complete. A leading surrogate needs a
trailing one behind it, and a trailing one needs a leading one before it. -/
def finishHex (stack : List Frame) (isKey : Bool) (letters : List Char) (code : Nat)
    (lead : Option Nat) : State :=
  let leading := 0xD800 ≤ code ∧ code ≤ 0xDBFF
  let trailing := 0xDC00 ≤ code ∧ code ≤ 0xDFFF
  match lead with
  | none =>
    if leading then reading stack (.string isKey letters (.pair code))
    else if trailing then failed
    else reading stack (.string isKey (Char.ofNat code :: letters) .outside)
  | some high =>
    if trailing then
      let joined := 0x10000 + (high - 0xD800) * 0x400 + (code - 0xDC00)
      reading stack (.string isKey (Char.ofNat joined :: letters) .outside)
    else failed

/-- A character of the four digits of an escape. They are judged when four bytes of
text have been read, so that an escape at the end of the text is unfinished whatever
it holds. -/
def stepHex (stack : List Frame) (isKey : Bool) (letters : List Char) (bytes : Nat)
    (code : Option Nat) (lead : Option Nat) (c : Char) : State :=
  let bytes := bytes + c.utf8Size
  let code := do
    let high ← code
    let low ← hexDigit? c
    return high * 16 + low
  if bytes < 4 then reading stack (.string isKey letters (.hex bytes code lead))
  else
    match code with
    | some code => finishHex stack isKey letters code lead
    | none => failed

/-- A character inside a string. -/
def stepString (stack : List Frame) (isKey : Bool) (letters : List Char) (escape : Escape)
    (c : Char) : State :=
  match escape with
  | .outside =>
    if c = '"' then finishString stack isKey letters
    else if c = '\\' then reading stack (.string isKey letters .backslash)
    else if c.toNat < 0x20 then failed
    else reading stack (.string isKey (c :: letters) .outside)
  | .backslash =>
    if c = 'u' then reading stack (.string isKey letters (.hex 0 (some 0) none))
    else
      match escaped? c with
      | some letter => reading stack (.string isKey (letter :: letters) .outside)
      | none => failed
  | .hex bytes code lead => stepHex stack isKey letters bytes code lead c
  | .pair lead =>
    if c = '\\' then reading stack (.string isKey letters (.pairBackslash lead)) else failed
  | .pairBackslash lead =>
    if c = 'u' then reading stack (.string isKey letters (.hex 0 (some 0) (some lead)))
    else failed

/-! ### Numbers -/

/-- A number literal with one more character, if the character goes on with it. -/
def extend? (digits : Digits) (part : NumberPart) (c : Char) : Option (Digits × NumberPart) :=
  let whole (part : NumberPart) := some ({ digits with whole := c :: digits.whole }, part)
  let fraction := some ({ digits with fraction := c :: digits.fraction }, NumberPart.fraction)
  let exponent := some ({ digits with exponent := c :: digits.exponent }, NumberPart.exponent)
  let isMark := c = 'e' ∨ c = 'E'
  match part with
  | .sign => if c = '0' then whole .zero else if c.isDigit then whole .whole else none
  | .zero =>
    if c = '.' then some (digits, .point) else if isMark then some (digits, .mark) else none
  | .whole =>
    if c.isDigit then whole .whole
    else if c = '.' then some (digits, .point)
    else if isMark then some (digits, .mark)
    else none
  | .point => if c.isDigit then fraction else none
  | .fraction =>
    if c.isDigit then fraction else if isMark then some (digits, .mark) else none
  | .mark =>
    if c.isDigit then exponent
    else if c = '+' then some (digits, .markSign)
    else if c = '-' then some ({ digits with minus := true }, .markSign)
    else none
  | .markSign => if c.isDigit then exponent else none
  | .exponent => if c.isDigit then exponent else none

/-- The literal ends: the number is complete unless it is out of range. -/
def finishNumber (stack : List Frame) (digits : Digits) : State :=
  match digits.literal.value? with
  | some value => finish (.number value) stack
  | none => failed

/-- A character inside or behind a number. A digit behind a leading zero is neither. -/
def stepNumber (stack : List Frame) (digits : Digits) (part : NumberPart) (c : Char) : State :=
  match extend? digits part c with
  | some (digits, part) => reading stack (.number digits part)
  | none =>
    if part.mayEnd && !(part == .zero && c.isDigit) then
      afterValue (finishNumber stack digits) c
    else failed

/-! ### The machine -/

/-- Takes one character. -/
def step (state : State) (c : Char) : State :=
  match state with
  | reading stack spot =>
    match spot with
    | .value => if isSpace c then state else beginValue stack c
    | .firstItem =>
      if isSpace c then state
      else
        match c, stack with
        | ']', _ :: outer => finish (.array []) outer
        | _, _ => beginValue stack c
    | .firstKey =>
      if isSpace c then state
      else if c = '"' then reading stack (.string true [] .outside)
      else
        match c, stack with
        | '\x7d', _ :: outer => finish (.object []) outer
        | _, _ => failed
    | .key =>
      if isSpace c then state
      else if c = '"' then reading stack (.string true [] .outside)
      else failed
    | .colon => if isSpace c then state else if c = ':' then reading stack .value else failed
    | .next => afterValue state c
    | .string isKey letters escape => stepString stack isKey letters escape c
    | .word rest value =>
      match rest with
      | [] => failed
      | [letter] => if c = letter then finish value stack else failed
      | letter :: rest => if c = letter then reading stack (.word rest value) else failed
    | .number digits part => stepNumber stack digits part c
  | complete _ => afterValue state c
  | surplus _ => state
  | failed => state

/-- A reading that has failed stays so. -/
theorem step_failed (c : Char) : failed.step c = failed := by
  simp only [step]

/-- Takes the characters of a text. -/
def run (state : State) (text : List Char) : State := text.foldl step state

@[simp] theorem run_nil (state : State) : state.run [] = state := rfl

@[simp] theorem run_cons (state : State) (c : Char) (text : List Char) :
    state.run (c :: text) = (state.step c).run text := rfl

/-- A text may be read in parts. -/
theorem run_append (state : State) (first second : List Char) :
    state.run (first ++ second) = (state.run first).run second := by
  simp [run, List.foldl_append]

@[simp] theorem run_failed (text : List Char) : failed.run text = failed := by
  induction text with
  | nil => rfl
  | cons c text ih => rw [run_cons, step_failed, ih]

/-- The end of the text. A number may end with it. -/
def close : State → State
  | reading stack (.number digits part) =>
    if part.mayEnd then finishNumber stack digits else reading stack (.number digits part)
  | state => state

end State

/-! ### Texts -/

/-- The machine behind the last character of a text. -/
def scan (text : String) : State := (State.start.run text.toList).close

/-- Reads a JSON text. -/
def read (text : String) : Except Fault Value :=
  match scan text with
  | .complete value => .ok value
  | .reading _ _ => .error .unfinished
  | .surplus _ => .error .malformed
  | .failed => .error .malformed

end CodeReview.Json
