import CodeReview.Html.Reference.Names

/-!
# CodeReview.Html.Reference

Character references: `&name;`, `&#10;` and `&#xA;` in text and in attribute values.

A reference is read one character at a time (`Reference.step`), from the ampersand on.
When a character does not go on with it, the reference gives the text it stands for,
and the character may or may not belong to it.

Design points:

* A name runs over letters and digits. With a semicolon behind it, it has to be one of
  the names as a whole; otherwise the longest of the unterminated names that it starts
  with counts, and the rest stays text.
* In an attribute value an unterminated name does not count when a letter, a digit or
  an equals sign follows, so that queries in addresses stay as they are.
* A number that names no character stands for the replacement character, and the codes
  from 128 to 159 stand for what they meant in an older character set.
-/

namespace CodeReview.Html

/-- The character that stands for one that cannot be shown. -/
def replacementChar : Char := Char.ofNat 0xFFFD

/-- A character reference being read. -/
inductive Reference
  /-- Behind the ampersand. -/
  | ampersand
  /-- In a name, of which the letters so far stand last first. -/
  | name (letters : List Char)
  /-- Behind the number sign. -/
  | hash
  /-- Behind the number sign and the letter, of either case, for hexadecimal. -/
  | hashX (letter : Char)
  /-- In a decimal number. -/
  | decimal (value : Nat)
  /-- In a hexadecimal number. -/
  | hexadecimal (value : Nat)
deriving DecidableEq, Repr

namespace Reference

/-! ### Names -/

/-- The longest unterminated name that the letters start with: the characters it
stands for, and the letters behind it. Looks at starts of at most `bound` letters. -/
def longestName? (letters : List Char) : Nat → Option (List Char × List Char)
  | 0 => none
  | bound + 1 =>
    match unterminated.lookup (letters.take (bound + 1)) with
    | some chars => some (chars, letters.drop (bound + 1))
    | none => longestName? letters bound

/-- No unterminated name is longer. -/
def longestUnterminated : Nat := 6

/-- The text of a name that no semicolon ends, given the character behind it. -/
def unterminatedText? (inAttribute : Bool) (letters : List Char) (next : Option Char) :
    Option (List Char) :=
  match longestName? letters longestUnterminated with
  | some (chars, rest) =>
    if inAttribute && (!rest.isEmpty || next == some '=') then none else some (chars ++ rest)
  | none => none

/-! ### Numbers -/

/-- What the codes from 128 to 159 stand for, where that is another character. -/
def olderCodes : List (Nat × Nat) := [
  (0x80, 0x20AC), (0x82, 0x201A), (0x83, 0x0192), (0x84, 0x201E), (0x85, 0x2026),
  (0x86, 0x2020), (0x87, 0x2021), (0x88, 0x02C6), (0x89, 0x2030), (0x8A, 0x0160),
  (0x8B, 0x2039), (0x8C, 0x0152), (0x8E, 0x017D), (0x91, 0x2018), (0x92, 0x2019),
  (0x93, 0x201C), (0x94, 0x201D), (0x95, 0x2022), (0x96, 0x2013), (0x97, 0x2014),
  (0x98, 0x02DC), (0x99, 0x2122), (0x9A, 0x0161), (0x9B, 0x203A), (0x9C, 0x0153),
  (0x9E, 0x017E), (0x9F, 0x0178)]

/-- The greatest code point. -/
def greatestCode : Nat := 0x10FFFF

/-- The character that a number stands for. -/
def numbered (n : Nat) : Char :=
  if n = 0 ∨ greatestCode < n ∨ (0xD800 ≤ n ∧ n ≤ 0xDFFF) then replacementChar
  else Char.ofNat ((olderCodes.lookup n).getD n)

/-- The value of a hexadecimal digit. -/
def hexValue? (c : Char) : Option Nat :=
  if c.isDigit then some (c.toNat - 48)
  else if 'a' ≤ c ∧ c ≤ 'f' then some (c.toNat - 87)
  else if 'A' ≤ c ∧ c ≤ 'F' then some (c.toNat - 55)
  else none

/-- A number with one more digit. Beyond the greatest code point all are the same. -/
def extend (base value digit : Nat) : Nat := min (value * base + digit) (greatestCode + 1)

/-! ### Reading -/

/-- What a character does to a reference. -/
inductive Progress
  /-- The reference goes on. -/
  | more (reference : Reference)
  /-- The reference has ended and stands for a text. The character belongs to it or
  not, and a number may lack its semicolon. -/
  | done (text : List Char) (belongs : Bool) (lacksSemicolon : Bool)

/-- The text of a reference that ends before the given character, or at the end. -/
def textBefore (inAttribute : Bool) (reference : Reference) (next : Option Char) : List Char :=
  match reference with
  | ampersand => ['&']
  | name letters =>
    (unterminatedText? inAttribute letters.reverse next).getD ('&' :: letters.reverse)
  | hash => ['&', '#']
  | hashX letter => ['&', '#', letter]
  | decimal value => [numbered value]
  | hexadecimal value => [numbered value]

/-- The reference is a number. -/
def isNumber : Reference → Bool
  | decimal _ | hexadecimal _ => true
  | _ => false

/-- The reference ends before the given character. -/
def cut (inAttribute : Bool) (reference : Reference) (c : Char) : Progress :=
  .done (textBefore inAttribute reference (some c)) false reference.isNumber

/-- The semicolon behind a name. -/
def closeName (inAttribute : Bool) (letters : List Char) : Progress :=
  match names.lookup letters.reverse with
  | some chars => .done chars true false
  | none => cut inAttribute (.name letters) ';'

/-- Takes one character. -/
def step (inAttribute : Bool) (reference : Reference) (c : Char) : Progress :=
  match reference with
  | ampersand =>
    if c.isAlphanum then .more (.name [c])
    else if c = '#' then .more .hash
    else cut inAttribute reference c
  | name letters =>
    if c.isAlphanum then .more (.name (c :: letters))
    else if c = ';' then closeName inAttribute letters
    else cut inAttribute reference c
  | hash =>
    if c = 'x' ∨ c = 'X' then .more (.hashX c)
    else if c.isDigit then .more (.decimal (extend 10 0 (c.toNat - 48)))
    else cut inAttribute reference c
  | hashX _ =>
    match hexValue? c with
    | some digit => .more (.hexadecimal (extend 16 0 digit))
    | none => cut inAttribute reference c
  | decimal value =>
    if c.isDigit then .more (.decimal (extend 10 value (c.toNat - 48)))
    else if c = ';' then .done [numbered value] true false
    else cut inAttribute reference c
  | hexadecimal value =>
    match hexValue? c with
    | some digit => .more (.hexadecimal (extend 16 value digit))
    | none =>
      if c = ';' then .done [numbered value] true false else cut inAttribute reference c

/-! ### Attribute values -/

/-- A value being decoded: the reference that is open, and the text so far, last
character first. -/
structure Decoding where
  reference : Option Reference
  text : List Char

/-- A character outside every reference. -/
def Decoding.plain (text : List Char) (c : Char) : Decoding :=
  if c = '&' then ⟨some .ampersand, text⟩ else ⟨none, c :: text⟩

/-- Takes one character of a value. -/
def Decoding.step (decoding : Decoding) (c : Char) : Decoding :=
  match decoding.reference with
  | none => .plain decoding.text c
  | some reference =>
    match reference.step true c with
    | .more reference => { decoding with reference := some reference }
    | .done text belongs _ =>
      let text := text.reverse ++ decoding.text
      if belongs then ⟨none, text⟩ else .plain text c

/-- The end of a value. -/
def Decoding.close (decoding : Decoding) : List Char :=
  match decoding.reference with
  | none => decoding.text.reverse
  | some reference => decoding.text.reverse ++ reference.textBefore true none

/-- The value of an attribute, with its references replaced. -/
def decodeValue (value : List Char) : List Char :=
  (value.foldl Decoding.step ⟨none, []⟩).close

/-- A value without an ampersand stands for itself. -/
theorem decodeValue_of_not_mem {value : List Char} (h : '&' ∉ value) :
    decodeValue value = value := by
  have key : ∀ (text : List Char),
      value.foldl Decoding.step ⟨none, text⟩ = ⟨none, value.reverse ++ text⟩ := by
    induction value with
    | nil => simp
    | cons c value ih =>
      intro text
      have hc : c ≠ '&' := fun e => h (e ▸ List.mem_cons_self)
      simp [Decoding.step, Decoding.plain, hc, ih (fun m => h (List.mem_cons_of_mem _ m))]
  simp [decodeValue, key, Decoding.close]

end Reference

end CodeReview.Html
