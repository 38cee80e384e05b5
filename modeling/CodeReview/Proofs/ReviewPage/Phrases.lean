import CodeReview.Proofs.Html.Layout
import CodeReview.Proofs.Text.Numeral
import CodeReview.Proofs.Text.Runs
import CodeReview.ReviewPage.Threads
import Mathlib.Data.List.Forall2

/-!
# CodeReview.Proofs.ReviewPage.Phrases

The phrase by which a thread speaks of several lines. `Phrase` says what a phrase is, part by
part. The reader finds the phrase that a text starts with, with all digits of its second number
(`phraseAt?_append`), and finds nothing else (`phrase_of_phraseAt?`). A phrase has the letter that
it starts with in no other place, so no phrase that starts before another one runs into it: the
first phrase of a text is the one behind a text without any (`phrase?_append`), and it alone
decides the lines of the thread.
-/

namespace CodeReview.ReviewPage

open Html Text

/-! ### What a phrase is -/

/-- The text is the word, given in small letters, in any case. -/
def Spells (word text : List Char) : Prop :=
  List.Forall₂ (fun letter c => isLetter letter c = true) word text

instance (word text : List Char) : Decidable (Spells word text) :=
  inferInstanceAs (Decidable (List.Forall₂ _ word text))

/-- The text is a sign, or nothing. -/
def IsSign (text : List Char) : Prop := text = [] ∨ text = ['+'] ∨ text = ['-']

instance (text : List Char) : Decidable (IsSign text) :=
  inferInstanceAs (Decidable (_ ∨ _ ∨ _))

/-- A phrase whose numbers have the given digits: *comment on line* or *comment on lines*, the
first number, *to*, the second number. Blanks are between the words and the numbers, and each
number may have a sign. -/
inductive Phrase (first last : List Char) : List Char → Prop
  | mk {opening plural blanks₁ sign₁ blanks₂ connective blanks₃ sign₂ : List Char} :
      Spells "comment on line".toList opening → plural = [] ∨ Spells ['s'] plural →
      IsRun isBlank blanks₁ → IsSign sign₁ → IsRun isDecimalDigit first →
      IsRun isBlank blanks₂ → Spells "to".toList connective →
      IsRun isBlank blanks₃ → IsSign sign₂ → IsRun isDecimalDigit last →
      Phrase first last (opening ++ (plural ++ (blanks₁ ++ (sign₁ ++ (first ++ (blanks₂ ++
        (connective ++ (blanks₃ ++ (sign₂ ++ last)))))))))

/-- The text has a phrase in it. -/
def HasPhrase (text : List Char) : Prop :=
  ∃ first last phrase, Phrase first last phrase ∧ phrase <:+: text

/-! ### The parts of a phrase -/

section Parts

variable {text rest : List Char}

theorem afterWord?_eq_some_iff {word : List Char} :
    afterWord? word text = some rest ↔ ∃ spelled, text = spelled ++ rest ∧ Spells word spelled := by
  induction word generalizing text with
  | nil =>
    constructor
    · intro h
      obtain rfl := Option.some.inj h
      exact ⟨[], rfl, .nil⟩
    · rintro ⟨spelled, rfl, hspelled⟩
      cases hspelled
      rfl
  | cons letter word ih =>
    cases text with
    | nil =>
      constructor
      · intro h
        cases h
      · rintro ⟨spelled, htext, hspelled⟩
        cases hspelled
        cases htext
    | cons c text =>
      rw [afterWord?]
      constructor
      · intro h
        split at h
        · next hletter =>
          obtain ⟨spelled, rfl, hspelled⟩ := ih.mp h
          exact ⟨c :: spelled, rfl, .cons hletter hspelled⟩
        · cases h
      · rintro ⟨spelled, htext, hspelled⟩
        cases hspelled with
        | cons hletter hspelled =>
          obtain ⟨rfl, rfl⟩ := List.cons.inj htext
          rw [if_pos hletter]
          exact ih.mpr ⟨_, rfl, hspelled⟩

theorem afterWord?_append {word spelled : List Char} (h : Spells word spelled)
    (rest : List Char) : afterWord? word (spelled ++ rest) = some rest :=
  afterWord?_eq_some_iff.mpr ⟨spelled, rfl, h⟩

theorem afterBlanks?_append {blanks : List Char} (hblanks : IsRun isBlank blanks)
    (hrest : ∀ c ∈ rest.head?, isBlank c = false) : afterBlanks? (blanks ++ rest) = some rest := by
  have hdrop : trimStart (blanks ++ rest) = rest := dropWhile_append_of_head? hblanks.all hrest
  cases blanks with
  | nil => exact absurd rfl hblanks.ne_nil
  | cons c blanks =>
    have hc := hblanks.all c List.mem_cons_self
    rw [List.cons_append, trimStart, List.dropWhile_cons_of_pos hc] at hdrop
    rw [List.cons_append, afterBlanks?, if_pos hc, trimStart, hdrop]

theorem eq_append_of_afterBlanks? (h : afterBlanks? text = some rest) :
    ∃ blanks, text = blanks ++ rest ∧ IsRun isBlank blanks := by
  cases text with
  | nil => cases h
  | cons c text =>
    rw [afterBlanks?] at h
    split at h
    · next hc =>
      obtain rfl := Option.some.inj h
      refine ⟨c :: text.takeWhile isBlank, ?_, List.cons_ne_nil _ _, ?_⟩
      · rw [List.cons_append, trimStart, List.takeWhile_append_dropWhile]
      · intro d hd
        exact (List.mem_cons.mp hd).elim (· ▸ hc) List.mem_takeWhile_imp
    · cases h

theorem afterSign_append {sign : List Char} (hsign : IsSign sign)
    (hrest : ∃ c, rest.head? = some c ∧ isDecimalDigit c = true) :
    afterSign (sign ++ rest) = rest := by
  rcases hsign with rfl | rfl | rfl
  · obtain ⟨c, hhead, hc⟩ := hrest
    obtain ⟨more, rfl⟩ := List.head?_eq_some_iff.mp hhead
    rw [List.nil_append, afterSign.eq_def]
    split
    · next hplus =>
      obtain ⟨rfl, -⟩ := List.cons.inj hplus
      exact absurd hc (by decide)
    · next hminus =>
      obtain ⟨rfl, -⟩ := List.cons.inj hminus
      exact absurd hc (by decide)
    · rfl
  · rfl
  · rfl

theorem eq_append_afterSign (text : List Char) :
    ∃ sign, text = sign ++ afterSign text ∧ IsSign sign := by
  rw [afterSign.eq_def]
  split
  · exact ⟨['+'], rfl, .inr (.inl rfl)⟩
  · exact ⟨['-'], rfl, .inr (.inr rfl)⟩
  · exact ⟨[], rfl, .inl rfl⟩

theorem digits?_append {digits : List Char} (hdigits : IsRun isDecimalDigit digits)
    (hrest : ∀ c ∈ rest.head?, isDecimalDigit c = false) :
    digits? (digits ++ rest) = some (digits, rest) := by
  rw [digits?, takeWhile_append_of_head? hdigits.all hrest,
    dropWhile_append_of_head? hdigits.all hrest]
  simp [hdigits.ne_nil]

theorem eq_append_of_digits? {digits : List Char} (h : digits? text = some (digits, rest)) :
    text = digits ++ rest ∧ IsRun isDecimalDigit digits ∧
      ∀ c ∈ rest.head?, isDecimalDigit c = false := by
  rw [digits?] at h
  split at h
  · cases h
  · next hne =>
    rw [List.isEmpty_iff] at hne
    obtain ⟨rfl, rfl⟩ := Prod.mk.inj (Option.some.inj h)
    exact ⟨List.takeWhile_append_dropWhile.symm,
      ⟨hne, fun d hd => List.mem_takeWhile_imp hd⟩, head?_dropWhile_eq_false _ _⟩

/-- Behind a sign and digits there is no blank at first. -/
theorem isBlank_head?_sign_append {sign digits : List Char} (hsign : IsSign sign)
    (hdigits : IsRun isDecimalDigit digits) (rest : List Char) :
    ∀ c ∈ (sign ++ (digits ++ rest)).head?, isBlank c = false := by
  intro c hc
  rcases hsign with rfl | rfl | rfl
  · exact hdigits.forall_head?_append isBlank_eq_false_of_isDecimalDigit rest c hc
  · obtain rfl := Option.some.inj hc
    decide
  · obtain rfl := Option.some.inj hc
    decide

end Parts

/-! ### Letters -/

section Letters

variable {letter c : Char}

theorem toNat_of_isLetter (hletter : letter.isLower = true) (h : isLetter letter c = true) :
    (65 ≤ c.toNat ∧ c.toNat ≤ 122) ∨ c = 'ſ' := by
  have hrange := isLower_iff_toNat.mp hletter
  simp only [isLetter, Bool.or_eq_true, Bool.and_eq_true, beq_iff_eq] at h
  rcases h with hlower | ⟨-, rfl⟩
  · left
    rcases isCapital_or_toLower_eq c with hcapital | hsmall
    · omega
    · rw [hsmall] at hlower
      subst hlower
      omega
  · exact .inr rfl

theorem isBlank_eq_false_of_isLetter (hletter : letter.isLower = true)
    (h : isLetter letter c = true) : isBlank c = false := by
  rcases toNat_of_isLetter hletter h with hrange | rfl
  · unfold isBlank
    simp only [Bool.or_eq_false_iff, Bool.and_eq_false_iff, beq_eq_false_iff_ne,
      decide_eq_false_iff_not]
    omega
  · decide

theorem isDecimalDigit_eq_false_of_isLetter (hletter : letter.isLower = true)
    (h : isLetter letter c = true) : isDecimalDigit c = false := by
  rcases toNat_of_isLetter hletter h with hrange | rfl
  · have hcodes : ∀ n < 123, 65 ≤ n →
        (scriptZeros.any fun origin => origin ≤ n && n < origin + 10) = false := by decide
    exact hcodes c.toNat (by omega) hrange.1
  · decide

/-- A letter in any case is no other letter in any case. -/
theorem eq_c_of_isLetter (hc : isLetter 'c' c = true) (h : isLetter letter c = true) :
    letter = 'c' := by
  simp only [isLetter, Bool.or_eq_true, Bool.and_eq_true, beq_iff_eq] at hc h
  rcases hc with hc | ⟨hs, -⟩
  · rcases h with h | ⟨-, rfl⟩
    · rw [← h, hc]
    · exact absurd hc (by decide)
  · exact absurd hs (by decide)

end Letters

/-! ### A phrase at the start of a text -/

section Start

variable {text first last : List Char}

/-- The letter for the plural is taken if it is there. What follows it is a blank, which is no
such letter. -/
theorem getD_afterWord?_plural {plural rest : List Char}
    (hplural : plural = [] ∨ Spells ['s'] plural)
    (hrest : ∃ c, rest.head? = some c ∧ isBlank c = true) :
    (afterWord? ['s'] (plural ++ rest)).getD (plural ++ rest) = rest := by
  rcases hplural with rfl | hplural
  · obtain ⟨c, hhead, hc⟩ := hrest
    obtain ⟨more, rfl⟩ := List.head?_eq_some_iff.mp hhead
    have hletter : ¬ isLetter 's' c = true := by
      intro hletter
      rw [isBlank_eq_false_of_isLetter (by decide) hletter] at hc
      cases hc
    simp [afterWord?, hletter]
  · rw [afterWord?_append hplural]
    rfl

/-- A word does not start with a blank. -/
theorem isBlank_head?_spelled_append {word spelled : List Char} (hword : word ≠ [])
    (hlower : word.all Char.isLower = true) (hspelled : Spells word spelled)
    (rest : List Char) : ∀ c ∈ (spelled ++ rest).head?, isBlank c = false := by
  intro c hc
  cases hspelled with
  | nil => exact absurd rfl hword
  | cons hletter _ =>
    obtain rfl := Option.some.inj hc
    rw [List.all_cons, Bool.and_eq_true] at hlower
    exact isBlank_eq_false_of_isLetter hlower.1 hletter

/-- A phrase is found where it starts, if the text behind it does not go on with its last
number. The parts are found one after another, since none of them goes on with the next. -/
theorem phraseAt?_append {phrase rest : List Char} (h : Phrase first last phrase)
    (hrest : ∀ c ∈ rest.head?, isDecimalDigit c = false) :
    phraseAt? (phrase ++ rest) = some (first, last) := by
  cases h with
  | @mk opening plural blanks₁ sign₁ blanks₂ connective blanks₃ sign₂ hopening hplural hblanks₁
      hsign₁ hfirst hblanks₂ hconnective hblanks₃ hsign₂ hlast =>
      have hfindLast := digits?_append hlast hrest
      have hskipSign₂ := afterSign_append hsign₂ (hlast.head?_append rest)
      have hskipBlanks₃ :=
        afterBlanks?_append hblanks₃ (isBlank_head?_sign_append hsign₂ hlast rest)
      have hfindTo := afterWord?_append hconnective (blanks₃ ++ (sign₂ ++ (last ++ rest)))
      have hskipBlanks₂ := afterBlanks?_append hblanks₂ (isBlank_head?_spelled_append (by decide)
        (by decide) hconnective (blanks₃ ++ (sign₂ ++ (last ++ rest))))
      have hfindFirst := digits?_append hfirst (hblanks₂.forall_head?_append
        isDecimalDigit_eq_false_of_isBlank (connective ++ (blanks₃ ++ (sign₂ ++ (last ++ rest)))))
      have hskipSign₁ := afterSign_append hsign₁ (hfirst.head?_append
        (blanks₂ ++ (connective ++ (blanks₃ ++ (sign₂ ++ (last ++ rest))))))
      have hskipBlanks₁ := afterBlanks?_append hblanks₁ (isBlank_head?_sign_append hsign₁ hfirst
        (blanks₂ ++ (connective ++ (blanks₃ ++ (sign₂ ++ (last ++ rest))))))
      have hskipPlural := getD_afterWord?_plural hplural (hblanks₁.head?_append
        (sign₁ ++ (first ++ (blanks₂ ++ (connective ++ (blanks₃ ++ (sign₂ ++ (last ++ rest))))))))
      have hfindOpening := afterWord?_append hopening (plural ++ (blanks₁ ++ (sign₁ ++
        (first ++ (blanks₂ ++ (connective ++ (blanks₃ ++ (sign₂ ++ (last ++ rest)))))))))
      simp only [phraseAt?, List.append_assoc, hfindOpening, hskipPlural, hskipBlanks₁, hskipSign₁,
        hfindFirst, hskipBlanks₂, hfindTo, hskipBlanks₃, hskipSign₂, hfindLast,
        Option.bind_eq_bind, Option.bind_some]
      rfl

/-- What is found at the start of a text is a phrase, with all digits of its last number. -/
theorem phrase_of_phraseAt? (h : phraseAt? text = some (first, last)) :
    ∃ phrase rest, text = phrase ++ rest ∧ Phrase first last phrase ∧
      ∀ c ∈ rest.head?, isDecimalDigit c = false := by
  unfold phraseAt? at h
  simp only [Option.bind_eq_bind, Option.bind_eq_some_iff] at h
  obtain ⟨text₁, hword, text₂, hbehind₁, ⟨digits₁, text₃⟩, hfound₁, text₄, hbehind₂, text₅, hto,
    text₆, hbehind₃, ⟨digits₂, rest⟩, hfound₂, hnumbers⟩ := h
  obtain ⟨rfl, rfl⟩ := Prod.mk.inj (Option.some.inj hnumbers)
  obtain ⟨opening, rfl, hopening⟩ := afterWord?_eq_some_iff.mp hword
  obtain ⟨blanks₁, htext₁, hblanks₁⟩ := eq_append_of_afterBlanks? hbehind₁
  obtain ⟨sign₁, htext₂, hsign₁⟩ := eq_append_afterSign text₂
  obtain ⟨hdigits₁, hfirst, -⟩ := eq_append_of_digits? hfound₁
  obtain ⟨blanks₂, htext₃, hblanks₂⟩ := eq_append_of_afterBlanks? hbehind₂
  obtain ⟨connective, htext₄, hconnective⟩ := afterWord?_eq_some_iff.mp hto
  obtain ⟨blanks₃, htext₅, hblanks₃⟩ := eq_append_of_afterBlanks? hbehind₃
  obtain ⟨sign₂, htext₆, hsign₂⟩ := eq_append_afterSign text₆
  obtain ⟨hdigits₂, hlast, hrest⟩ := eq_append_of_digits? hfound₂
  have hplural : ∃ plural, text₁ = plural ++ (afterWord? ['s'] text₁).getD text₁ ∧
      (plural = [] ∨ Spells ['s'] plural) := by
    cases hs : afterWord? ['s'] text₁ with
    | none => exact ⟨[], rfl, .inl rfl⟩
    | some behind =>
      obtain ⟨plural, htext, hspells⟩ := afterWord?_eq_some_iff.mp hs
      exact ⟨plural, htext, .inr hspells⟩
  obtain ⟨plural, htext, hplural⟩ := hplural
  refine ⟨_, rest, ?_, .mk hopening hplural hblanks₁ hsign₁ hfirst hblanks₂ hconnective hblanks₃
    hsign₂ hlast, hrest⟩
  rw [htext, htext₁, htext₂, hdigits₁]
  dsimp only at htext₃
  rw [htext₃, htext₄, htext₅, htext₆, hdigits₂]
  simp only [List.append_assoc]

/-- A phrase goes on with more digits of its last number. -/
theorem Phrase.append {phrase more : List Char} (h : Phrase first last phrase)
    (hmore : ∀ c ∈ more, isDecimalDigit c = true) :
    Phrase first (last ++ more) (phrase ++ more) := by
  cases h with
  | mk hopening hplural hblanks₁ hsign₁ hfirst hblanks₂ hconnective hblanks₃ hsign₂ hlast =>
    simp only [List.append_assoc]
    exact .mk hopening hplural hblanks₁ hsign₁ hfirst hblanks₂ hconnective hblanks₃ hsign₂
      (hlast.append hmore)

/-- Where nothing is found, no phrase starts. -/
theorem not_phrase_of_phraseAt? (h : phraseAt? text = none) {phrase : List Char}
    (hstart : phrase <+: text) : ¬ Phrase first last phrase := by
  intro hphrase
  obtain ⟨rest, rfl⟩ := hstart
  have hmore : ∀ c ∈ rest.takeWhile isDecimalDigit, isDecimalDigit c = true :=
    fun c hc => List.mem_takeWhile_imp hc
  have hfound := phraseAt?_append (hphrase.append hmore)
    (head?_dropWhile_eq_false isDecimalDigit rest)
  rw [List.append_assoc, List.takeWhile_append_dropWhile, h] at hfound
  cases hfound

end Start

/-! ### The first phrase of a text -/

section First

variable {text first last phrase : List Char}

/-- A word without the letter has it in no case. -/
theorem Spells.isLetter_c_eq_false {word spelled : List Char} (h : Spells word spelled)
    (hword : 'c' ∉ word) : ∀ d ∈ spelled, isLetter 'c' d = false := by
  induction h with
  | nil =>
    intro d hd
    cases hd
  | @cons letter c word spelled hletter _ ih =>
    simp only [List.mem_cons, not_or] at hword
    intro d hd
    rcases List.mem_cons.mp hd with rfl | hd
    · rw [Bool.eq_false_iff]
      intro hc
      exact hword.1 (eq_c_of_isLetter hc hletter).symm
    · exact ih hword.2 d hd

/-- A phrase has the letter that it starts with in no other place. -/
theorem Phrase.eq_cons (h : Phrase first last phrase) :
    ∃ c rest, phrase = c :: rest ∧ isLetter 'c' c = true ∧ ∀ d ∈ rest, isLetter 'c' d = false := by
  have hblank {d : Char} (hd : isBlank d = true) : isLetter 'c' d = false := by
    rw [Bool.eq_false_iff]
    intro hc
    rw [isBlank_eq_false_of_isLetter (by decide) hc] at hd
    cases hd
  have hdigit {d : Char} (hd : isDecimalDigit d = true) : isLetter 'c' d = false := by
    rw [Bool.eq_false_iff]
    intro hc
    rw [isDecimalDigit_eq_false_of_isLetter (by decide) hc] at hd
    cases hd
  have hsign {sign : List Char} (h : IsSign sign) : ∀ d ∈ sign, isLetter 'c' d = false := by
    rcases h with rfl | rfl | rfl
    · exact List.forall_mem_nil _
    · exact List.forall_mem_singleton.mpr (by decide)
    · exact List.forall_mem_singleton.mpr (by decide)
  cases h with
  | @mk opening plural blanks₁ sign₁ blanks₂ connective blanks₃ sign₂ hopening hplural hblanks₁
      hsign₁ hfirst hblanks₂ hconnective hblanks₃ hsign₂ hlast =>
      have hs : ∀ d ∈ plural, isLetter 'c' d = false := by
        rcases hplural with rfl | hplural
        · simp
        · exact hplural.isLetter_c_eq_false (by decide)
      have hto := hconnective.isLetter_c_eq_false (by decide)
      rw [show "comment on line".toList = 'c' :: "omment on line".toList by decide] at hopening
      cases hopening with
      | @cons _ c _ opening hc hopening =>
        have hword := Spells.isLetter_c_eq_false hopening (by decide)
        refine ⟨c, _, rfl, hc, ?_⟩
        intro d hd
        simp only [List.append_eq, List.mem_append] at hd
        rcases hd with hd | hd | hd | hd | hd | hd | hd | hd | hd | hd
        · exact hword d hd
        · exact hs d hd
        · exact hblank (hblanks₁.all d hd)
        · exact hsign hsign₁ d hd
        · exact hdigit (hfirst.all d hd)
        · exact hblank (hblanks₂.all d hd)
        · exact hto d hd
        · exact hblank (hblanks₃.all d hd)
        · exact hsign hsign₂ d hd
        · exact hdigit (hlast.all d hd)

theorem hasPhrase_cons_iff {c : Char} :
    HasPhrase (c :: text) ↔
      (∃ first last phrase, Phrase first last phrase ∧ phrase <+: c :: text) ∨ HasPhrase text := by
  simp only [HasPhrase, List.infix_cons_iff, and_or_left, exists_or]

/-- Nothing is found in a text exactly if there is no phrase in it. -/
theorem phrase?_eq_none_iff : phrase? text = none ↔ ¬ HasPhrase text := by
  induction text with
  | nil =>
    refine ⟨fun _ => ?_, fun _ => rfl⟩
    rintro ⟨first, last, phrase, hphrase, hoccurs⟩
    obtain ⟨c, rest, rfl, -⟩ := hphrase.eq_cons
    exact absurd (List.infix_nil.mp hoccurs) (List.cons_ne_nil _ _)
  | cons c text ih =>
    rw [hasPhrase_cons_iff]
    cases hstart : phraseAt? (c :: text) with
    | some numbers =>
      obtain ⟨phrase, rest, htext, hphrase, -⟩ := phrase_of_phraseAt? hstart
      rw [phrase?, hstart, htext]
      constructor
      · intro h
        cases h
      · intro h
        exact absurd (.inl ⟨_, _, phrase, hphrase, List.prefix_append _ _⟩) h
    | none =>
      rw [phrase?_cons_of_none hstart, ih, or_iff_right]
      rintro ⟨first, last, phrase, hphrase, hprefix⟩
      exact not_phrase_of_phraseAt? hstart hprefix hphrase

theorem phrase?_of_phraseAt? {numbers : List Char × List Char}
    (h : phraseAt? text = some numbers) : phrase? text = some numbers := by
  cases text with
  | nil => cases h
  | cons c text => rw [phrase?, h]

/-- **The first phrase counts.** Behind a text without phrases a phrase is found, since none that
starts before it can run into it: there its first letter would stand in another place. -/
theorem phrase?_append {before after : List Char} (hbefore : ¬ HasPhrase before)
    (h : Phrase first last phrase) (hafter : ∀ c ∈ after.head?, isDecimalDigit c = false) :
    phrase? (before ++ (phrase ++ after)) = some (first, last) := by
  induction before with
  | nil =>
    rw [List.nil_append]
    exact phrase?_of_phraseAt? (phraseAt?_append h hafter)
  | cons c before ih =>
    rw [hasPhrase_cons_iff, not_or] at hbefore
    have hnone : phraseAt? (c :: (before ++ (phrase ++ after))) = none := by
      rw [Option.eq_none_iff_forall_not_mem]
      intro numbers hfound
      obtain ⟨found, rest, htext, hfoundPhrase, -⟩ := phrase_of_phraseAt? hfound
      rw [← List.cons_append] at htext
      have hinside : ¬ found <+: c :: before :=
        fun hprefix => hbefore.1 ⟨_, _, found, hfoundPhrase, hprefix⟩
      rcases List.append_eq_append_iff.mp htext with ⟨more, hover, hphrase⟩ | ⟨more, hover, -⟩
      · cases more with
        | nil =>
          rw [hover, List.append_nil] at hinside
          exact hinside List.prefix_rfl
        | cons d more =>
          obtain ⟨d', rest', hd', hletter, -⟩ := h.eq_cons
          obtain ⟨e, behind, hfound, -, hothers⟩ := hfoundPhrase.eq_cons
          rw [hd'] at hphrase
          obtain ⟨rfl, -⟩ := List.cons.inj hphrase
          rw [hfound] at hover
          obtain ⟨-, rfl⟩ := List.cons.inj hover
          rw [hothers d' (by simp)] at hletter
          cases hletter
      · rw [hover] at hinside
        exact hinside (List.prefix_append _ _)
    rw [List.cons_append, phrase?_cons_of_none hnone]
    exact ih hbefore.2

end First

/-! ### The lines of a thread -/

/-- **The first phrase of a thread decides its lines.** If the text of a thread is a phrase, with
the decimals of two numbers, behind a text without phrases and before one that does not go on with
the second number, then the thread is at the range of these numbers as long as both are line
numbers, and else where the row before its own says. Phrases behind the first one do not count, and
if both are line numbers, neither does the page around the thread. -/
theorem anchor?_of_phrase {ι : Type} (page : Page ι) (thread : ι) {before phrase after : List Char}
    {first last : Nat} (htext : page.chars thread = before ++ (phrase ++ after))
    (hbefore : ¬ HasPhrase before)
    (hphrase : Phrase (Nat.toDigits 10 first) (Nat.toDigits 10 last) phrase)
    (hafter : ∀ c ∈ after.head?, isDecimalDigit c = false) :
    (first ≤ 4294967295 ∧ last ≤ 4294967295 →
      anchor? page thread = some (.of none ⟨.ofNat first, .ofNat last⟩)) ∧
    (4294967295 < first ∨ 4294967295 < last →
      anchor? page thread = (rowLine? page thread).map .line) := by
  have hfound := phrase?_append hbefore hphrase hafter
  have hfirst := lineNumber?_toDigits first
  have hlast := lineNumber?_toDigits last
  have hsize : UInt32.size = 4294967296 := rfl
  rw [anchor?, htext]
  constructor
  · rintro ⟨hfitsFirst, hfitsLast⟩
    rw [if_pos (by omega)] at hfirst hlast
    simp [phraseRange?, hfound, hfirst, hlast]
  · rintro (hbeyond | hbeyond)
    · rw [if_neg (by omega)] at hfirst
      simp [phraseRange?, hfound, hfirst]
    · rw [if_neg (by omega)] at hlast
      simp [phraseRange?, hfound, hlast]

/-- A thread with a phrase that breaks off at another one, whose numbers descend, before a third. -/
def invertedThread : Element :=
  ⟨"div", [("class", "review-thread-component")], [
    .text "Comment on lines 3 to ", .element "b" [] [.text "cOMMENT"],
    .text " on LINE\n+12\tTo  -7. Comment on lines 1 to 2"]⟩

/-- A thread whose first phrase leads beyond the lines. -/
def boundlessThread : Element :=
  ⟨"div", [("class", "review-thread-component")],
    [.text "Comment on lines 1 to 4294967296, comment on lines 1 to 2"]⟩

/-- A row of code, and behind it the row of a thread. -/
def rowsAround (thread : Element) : List Node := [
  .element "tr" [] [.element "td" [("data-line-number", "5")] []],
  .element "tr" [("class", "inline-comments")] [thread.node]]

/-- The first thread is at its range whatever is around it, the second one at the line of the row
before its own. -/
theorem anchor?_of_phrase_twoThreads :
    anchor? (Node.pageOf [invertedThread.node]) ⟨⟨invertedThread, []⟩, []⟩ =
        some (.lines ⟨12, 7⟩) ∧
      anchor? (Node.pageOf (rowsAround boundlessThread)) ⟨⟨boundlessThread, []⟩,
        [⟨⟨"tr", [("class", "inline-comments")], [boundlessThread.node]⟩,
          [.element "tr" [] [.element "td" [("data-line-number", "5")] []]]⟩]⟩ =
        some (.line 5) := by
  have hinverted : Phrase (Nat.toDigits 10 12) (Nat.toDigits 10 7)
      ("cOMMENT on LINE".toList ++ ([] ++ ("\n".toList ++ (['+'] ++ (Nat.toDigits 10 12 ++
        ("\t".toList ++ ("To".toList ++ ("  ".toList ++ (['-'] ++ Nat.toDigits 10 7))))))))) :=
    .mk (by decide) (by decide) (by decide) (by decide) (by decide) (by decide) (by decide)
      (by decide) (by decide) (by decide)
  have hboundless : Phrase (Nat.toDigits 10 1) (Nat.toDigits 10 4294967296)
      ("Comment on line".toList ++ (['s'] ++ (" ".toList ++ ([] ++ (Nat.toDigits 10 1 ++
        (" ".toList ++ ("to".toList ++ (" ".toList ++ ([] ++ Nat.toDigits 10 4294967296))))))))) :=
    .mk (by decide) (by decide) (by decide) (by decide) (by decide) (by decide) (by decide)
      (by decide) (by decide) (by decide)
  constructor
  · have hbefore : ¬ HasPhrase "Comment on lines 3 to ".toList := phrase?_eq_none_iff.mp (by decide)
    have hafter : ∀ c ∈ ". Comment on lines 1 to 2".toList.head?, isDecimalDigit c = false := by
      intro c hc
      obtain rfl : '.' = c := Option.some.inj hc
      decide
    exact (anchor?_of_phrase _ _ (by decide) hbefore hinverted hafter).1 (by decide)
  · have hbefore : ¬ HasPhrase [] := phrase?_eq_none_iff.mp rfl
    have hafter : ∀ c ∈ ", comment on lines 1 to 2".toList.head?, isDecimalDigit c = false := by
      intro c hc
      obtain rfl : ',' = c := Option.some.inj hc
      decide
    rw [(anchor?_of_phrase _ _ (by decide) hbefore hboundless hafter).2 (by decide)]
    decide

end CodeReview.ReviewPage
