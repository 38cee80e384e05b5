import CodeReview.Html.Parser
import CodeReview.Proofs.Text.Runs

/-!
# CodeReview.Proofs.Html.Tags

Tags that are spelled out plainly, with all values between quotes, are read as these tags
(`Parser.run_startTag`, `Parser.run_closeTag`). Nothing goes to the builder before the tag is
complete, so the letters of a tag are read by the lexer alone (`Parser.step_of_silent`).
-/

namespace CodeReview.Html

/-! ### Spelling -/

/-- Letters of plain names: small ones, digits and dashes. -/
def isNameLetter (c : Char) : Bool := c.isLower || c.isDigit || c == '-'

/-- A plain name of a tag or an attribute: it begins with a small letter. -/
def IsName (name : String) : Prop :=
  name.toList.head?.any Char.isLower = true ∧ ∀ c ∈ name.toList, isNameLetter c = true

/-- A value that may stand between quotes as it is. -/
def IsValue (value : String) : Prop := ∀ c ∈ value.toList, c ≠ '"' ∧ c ≠ '&' ∧ c ≠ '\x00'

instance (name : String) : Decidable (IsName name) :=
  @instDecidableAnd _ _ _ (List.decidableBAll _ _)

instance (value : String) : Decidable (IsValue value) := List.decidableBAll _ _

/-- An attribute as it is spelled in a tag. -/
def attributeText : String × String → List Char
  | (name, value) => ' ' :: (name.toList ++ '=' :: '"' :: (value.toList ++ ['"']))

/-- The start tag as it is spelled. -/
def Tag.text (tag : Tag) : List Char :=
  '<' :: (tag.name.toList ++ (tag.attributes.flatMap attributeText ++ ['>']))

/-- The end tag with a name as it is spelled. -/
def endTagText (name : String) : List Char := '<' :: '/' :: (name.toList ++ ['>'])

/-- The tag can be spelled out: its names and values are plain, and no attribute comes twice. -/
structure Tag.IsPlain (tag : Tag) : Prop where
  name : IsName tag.name
  attributes : ∀ pair ∈ tag.attributes, IsName pair.1 ∧ IsValue pair.2
  nodup : (tag.attributes.map (·.1)).Nodup
  selfClosing : tag.selfClosing = false

/-! ### Letters of names -/

section Letters

variable {c : Char}

theorem isNameLetter_of_isLower (h : c.isLower = true) : isNameLetter c = true := by
  simp [isNameLetter, h]

theorem isAlpha_of_isLower (h : c.isLower = true) : c.isAlpha = true := by
  have halpha : c.isAlpha = (c.isUpper || c.isLower) := rfl
  rw [halpha, h, Bool.or_true]

theorem ne_of_isNameLetter (h : isNameLetter c = true) {d : Char} (hd : isNameLetter d = false) :
    c ≠ d := by
  rintro rfl
  rw [h] at hd
  cases hd

theorem isSpace_of_isNameLetter (h : isNameLetter c = true) : isSpace c = false := by
  have hne {d : Char} (hd : isNameLetter d = false) : (c == d) = false :=
    beq_false_of_ne (ne_of_isNameLetter h hd)
  rw [isSpace, hne (by decide), hne (by decide), hne (by decide), hne (by decide)]
  rfl

/-- No letter of a name is a capital letter. -/
theorem toLower_of_isNameLetter (h : isNameLetter c = true) : c.toLower = c := by
  refine (Text.isCapital_or_toLower_eq c).resolve_left fun hcapital => ?_
  simp only [isNameLetter, Bool.or_eq_true, beq_iff_eq] at h
  rcases h with (hlower | hdigit) | rfl
  · have hrange := Text.isLower_iff_toNat.mp hlower
    omega
  · have hlast := (Char.isDigit_iff_toNat.mp hdigit).2
    rw [show '9'.toNat = 57 from rfl] at hlast
    omega
  · exact absurd hcapital (by decide)

theorem nameLetter_of_isNameLetter (h : isNameLetter c = true) : Lexer.nameLetter c = c := by
  have hvisible : Lexer.visible c = c := if_neg (ne_of_isNameLetter h (by decide))
  rw [Lexer.nameLetter, hvisible, toLower_of_isNameLetter h]

end Letters

/-! ### Reading -/

namespace Parser

/-- The parser in text, outside every tag. -/
def inMarkup (b : Builder) : Parser := ⟨.text .markup, b, false⟩

variable {b : Builder} {lexer next : Lexer}

/-- A character that completes no token is read by the lexer alone. -/
theorem step_of_silent {c : Char} (h : lexer.step b.inForeign c = (next, [])) :
    (⟨lexer, b, false⟩ : Parser).step c = ⟨next, b, false⟩ := by
  simp only [step, Bool.false_and, h]
  rfl

/-- A character that completes one token. -/
theorem step_of_token {c : Char} {token : Token} (h : lexer.step b.inForeign c = (next, [token])) :
    (⟨lexer, b, false⟩ : Parser).step c = (⟨next, b, false⟩ : Parser).take token := by
  simp only [step, Bool.false_and, h]
  rfl

/-- Letters that the lexer collects, last one first, while it stays where it is. -/
theorem run_collect {place : List Char → Lexer} {p : Char → Prop}
    (h : ∀ {c}, p c → ∀ foreign letters,
      (place letters).step foreign c = (place (c :: letters), []))
    {text : List Char} (htext : ∀ c ∈ text, p c) (letters : List Char) :
    (⟨place letters, b, false⟩ : Parser).run text =
      ⟨place (text.reverse ++ letters), b, false⟩ := by
  induction text generalizing letters with
  | nil => rfl
  | cons c text ih =>
    rw [List.forall_mem_cons] at htext
    rw [run_cons, step_of_silent (h htext.1 _ _), ih htext.2, List.reverse_cons,
      List.append_assoc]
    rfl

/-! #### Attributes -/

theorem step_attributeName (draft : Draft) {c : Char} (hc : isNameLetter c = true)
    (foreign : Bool) (letters : List Char) :
    (Lexer.attributeName draft letters).step foreign c =
      (.attributeName draft (c :: letters), []) := by
  have hequals : c ≠ '=' := ne_of_isNameLetter hc (by decide)
  have hslash : c ≠ '/' := ne_of_isNameLetter hc (by decide)
  have hgreater : c ≠ '>' := ne_of_isNameLetter hc (by decide)
  simp [Lexer.step, Lexer.stepAttributeName, isSpace_of_isNameLetter hc, hequals, hslash, hgreater,
    nameLetter_of_isNameLetter hc]

theorem step_quotedValue (draft : Draft) (name : List Char) {c : Char}
    (hc : c ≠ '"' ∧ c ≠ '&' ∧ c ≠ '\x00') (foreign : Bool) (letters : List Char) :
    (Lexer.quotedValue draft name '"' letters).step foreign c =
      (.quotedValue draft name '"' (c :: letters), []) := by
  have hvisible : Lexer.visible c = c := if_neg hc.2.2
  simp [Lexer.step, Lexer.stepQuotedValue, hc.1, hvisible]

/-- The lexer is behind the name of a tag, or behind one of its attributes. -/
inductive Behind (draft : Draft) : Lexer → Prop
  | name : Behind draft (.tagName draft)
  | value : Behind draft (.afterValue draft)

theorem step_blank {draft : Draft} (h : Behind draft lexer) (foreign : Bool) :
    lexer.step foreign ' ' = (.beforeAttribute draft, []) := by
  cases h <;> rfl

theorem step_greater {draft : Draft} (h : Behind draft lexer) (foreign : Bool) :
    lexer.step foreign '>' = (.text .markup, [Lexer.Draft.token draft false]) := by
  cases h <;> rfl

theorem add_plain {draft : Draft} {name value : String}
    (hnew : name ∉ draft.attributes.map (·.1)) (hvalue : IsValue value) :
    Lexer.Draft.add draft name.toList.reverse value.toList.reverse =
      { draft with attributes := (name, value) :: draft.attributes } := by
  have hother : draft.attributes.any (·.1 == name) = false := by
    rw [List.any_eq_false]
    intro pair hpair hname
    exact hnew (List.mem_map.mpr ⟨pair, hpair, beq_iff_eq.mp hname⟩)
  have hplain : Reference.decodeValue value.toList = value.toList :=
    Reference.decodeValue_of_not_mem fun hmem => (hvalue _ hmem).2.1 rfl
  simp [Lexer.Draft.add, hother, hplain]

theorem step_beforeAttribute (draft : Draft) {c : Char} (hc : isNameLetter c = true)
    (foreign : Bool) :
    (Lexer.beforeAttribute draft).step foreign c = (.attributeName draft [c], []) := by
  have hslash : c ≠ '/' := ne_of_isNameLetter hc (by decide)
  have hgreater : c ≠ '>' := ne_of_isNameLetter hc (by decide)
  simp [Lexer.step, Lexer.stepBeforeAttribute, isSpace_of_isNameLetter hc, hslash, hgreater,
    nameLetter_of_isNameLetter hc]

/-- The name of an attribute. -/
theorem run_attributeName (draft : Draft) {name : String} (hname : IsName name) :
    (⟨.beforeAttribute draft, b, false⟩ : Parser).run name.toList =
      ⟨.attributeName draft name.toList.reverse, b, false⟩ := by
  obtain ⟨hfirst, hletters⟩ := hname
  cases hspelled : name.toList with
  | nil => simp [hspelled] at hfirst
  | cons c letters =>
    rw [hspelled, List.forall_mem_cons] at hletters
    rw [run_cons, step_of_silent (step_beforeAttribute draft hletters.1 _),
      run_collect (step_attributeName draft) hletters.2, List.reverse_cons]

/-- One attribute. -/
theorem run_attribute {draft : Draft} (h : Behind draft lexer) {name value : String}
    (hname : IsName name) (hvalue : IsValue value)
    (hnew : name ∉ draft.attributes.map (·.1)) :
    (⟨lexer, b, false⟩ : Parser).run (attributeText (name, value)) =
      ⟨.afterValue { draft with attributes := (name, value) :: draft.attributes }, b, false⟩ := by
  have hequals (letters : List Char) :
      (⟨.attributeName draft letters, b, false⟩ : Parser).step '=' =
        ⟨.beforeValue draft letters, b, false⟩ := step_of_silent rfl
  have hopen (letters : List Char) : (⟨.beforeValue draft letters, b, false⟩ : Parser).step '"' =
      ⟨.quotedValue draft letters '"' [], b, false⟩ := step_of_silent rfl
  have hclose (letters value : List Char) :
      (⟨.quotedValue draft letters '"' value, b, false⟩ : Parser).step '"' =
        ⟨.afterValue (Lexer.Draft.add draft letters value), b, false⟩ := step_of_silent rfl
  rw [attributeText, run_cons, step_of_silent (step_blank h _), run_append,
    run_attributeName draft hname, run_cons, hequals, run_cons, hopen, run_append,
    run_collect (step_quotedValue draft _) hvalue, List.append_nil, run_cons, hclose,
    add_plain hnew hvalue, run_nil]

/-- The attributes of a tag, and its end. -/
theorem run_attributes {draft : Draft} (h : Behind draft lexer) {attributes : Attributes}
    (hplain : ∀ pair ∈ attributes, IsName pair.1 ∧ IsValue pair.2)
    (hnodup : (attributes.map (·.1)).Nodup)
    (hnew : ∀ name ∈ attributes.map (·.1), name ∉ draft.attributes.map (·.1)) :
    (⟨lexer, b, false⟩ : Parser).run (attributes.flatMap attributeText ++ ['>']) =
      (inMarkup b).take (Lexer.Draft.token
        { draft with attributes := attributes.reverse ++ draft.attributes } false) := by
  induction attributes generalizing lexer draft with
  | nil => exact step_of_token (step_greater h _)
  | cons pair attributes ih =>
    obtain ⟨name, value⟩ := pair
    rw [List.forall_mem_cons] at hplain
    rw [List.map_cons, List.nodup_cons] at hnodup
    rw [List.map_cons, List.forall_mem_cons] at hnew
    rw [List.flatMap_cons, List.append_assoc, run_append,
      run_attribute h hplain.1.1 hplain.1.2 hnew.1, ih .value hplain.2 hnodup.2]
    · simp
    · intro other hother
      rw [List.map_cons, List.mem_cons, not_or]
      refine ⟨?_, hnew.2 other hother⟩
      rintro rfl
      exact hnodup.1 hother

/-! #### Tags and text -/

theorem step_tagName {draft : Draft} {c : Char} (hc : isNameLetter c = true) (foreign : Bool)
    (letters : List Char) :
    (Lexer.tagName { draft with name := letters }).step foreign c =
      (.tagName { draft with name := c :: letters }, []) := by
  have hslash : c ≠ '/' := ne_of_isNameLetter hc (by decide)
  have hgreater : c ≠ '>' := ne_of_isNameLetter hc (by decide)
  simp [Lexer.step, Lexer.stepTagName, isSpace_of_isNameLetter hc, hslash, hgreater,
    nameLetter_of_isNameLetter hc]

/-- The name of a tag, in which the first letter tells that there is a tag. -/
theorem run_tagName {name : String} (hname : IsName name) (isEnd : Bool)
    (hlexer : ∀ foreign c, c.isLower = true →
      lexer.step foreign c = (.tagName { isEnd, name := [c] }, [])) :
    (⟨lexer, b, false⟩ : Parser).run name.toList =
      ⟨.tagName { isEnd, name := name.toList.reverse }, b, false⟩ := by
  obtain ⟨hfirst, hletters⟩ := hname
  cases hspelled : name.toList with
  | nil => simp [hspelled] at hfirst
  | cons c letters =>
    rw [hspelled] at hfirst
    rw [hspelled, List.forall_mem_cons] at hletters
    have hcollect := run_collect (b := b) (@step_tagName ⟨isEnd, [], []⟩) hletters.2 [c]
    rw [run_cons, step_of_silent (hlexer _ c (by simpa using hfirst)), List.reverse_cons]
    exact hcollect

/-- **A start tag that is spelled out is read as the tag.** -/
theorem run_startTag {tag : Tag} (h : tag.IsPlain) :
    (inMarkup b).run tag.text = (inMarkup b).take (.start tag) := by
  have hless : (inMarkup b).step '<' = ⟨.less .markup, b, false⟩ := step_of_silent rfl
  have hbegin (foreign : Bool) (c : Char) (hc : c.isLower = true) :
      (Lexer.less .markup).step foreign c = (.tagName { isEnd := false, name := [c] }, []) := by
    have hname := isNameLetter_of_isLower hc
    have hbang : c ≠ '!' := ne_of_isNameLetter hname (by decide)
    have hslash : c ≠ '/' := ne_of_isNameLetter hname (by decide)
    have hquestion : c ≠ '?' := ne_of_isNameLetter hname (by decide)
    simp [Lexer.step, Lexer.stepLess, hbang, hslash, hquestion, isAlpha_of_isLower hc,
      toLower_of_isNameLetter hname]
  rw [Tag.text, run_cons, hless, run_append, run_tagName h.name false hbegin,
    run_attributes .name h.attributes h.nodup (fun _ _ => List.not_mem_nil)]
  obtain ⟨name, attributes, selfClosing⟩ := tag
  obtain rfl : selfClosing = false := h.selfClosing
  simp [Lexer.Draft.token]

/-- **An end tag that is spelled out is read as the tag.** -/
theorem run_closeTag {name : String} (h : IsName name) :
    (inMarkup b).run (endTagText name) = (inMarkup b).take (.close name) := by
  have hless : (inMarkup b).step '<' = ⟨.less .markup, b, false⟩ := step_of_silent rfl
  have hslash : (⟨.less .markup, b, false⟩ : Parser).step '/' = ⟨.lessSlash .markup, b, false⟩ :=
    step_of_silent rfl
  have hbegin (foreign : Bool) (c : Char) (hc : c.isLower = true) :
      (Lexer.lessSlash .markup).step foreign c =
        (.tagName { isEnd := true, name := [c] }, []) := by
    simp [Lexer.step, Lexer.stepLessSlash, isAlpha_of_isLower hc,
      toLower_of_isNameLetter (isNameLetter_of_isLower hc)]
  have hend (draft : Draft) : (⟨.tagName draft, b, false⟩ : Parser).step '>' =
      (inMarkup b).take (Lexer.Draft.token draft false) := step_of_token (step_greater .name _)
  rw [endTagText, run_cons, hless, run_cons, hslash, run_append, run_tagName h true hbegin,
    run_cons, hend, run_nil]
  simp [Lexer.Draft.token]

/-- A character of text that begins neither a tag nor a reference stands for itself. -/
theorem step_char {c : Char} (hless : c ≠ '<') (hampersand : c ≠ '&') :
    (inMarkup b).step c = (inMarkup b).take (.char c) :=
  step_of_token (by simp [Lexer.step, Lexer.stepText, hless, hampersand])

end Parser

end CodeReview.Html
