import Mathlib.Data.String.Basic

/-!
# CodeReview.Proofs.Text.ByteOrder

The order of strings is that of their bytes. UTF-8 keeps the order of characters: of two
characters, the bytes of the smaller one have a smaller byte where the two first differ, and they
do differ before one of them ends (`precedes_utf8EncodeChar`). So whatever follows two different
characters does not change how their bytes compare, and strings compare as their bytes do
(`lt_iff_utf8Bytes_lt`).
-/

namespace CodeReview.Text

/-- The bytes of a string in UTF-8. -/
def utf8Bytes (s : String) : List UInt8 := s.toUTF8.data.toList

theorem utf8Bytes_eq_flatMap (s : String) :
    utf8Bytes s = s.toList.flatMap String.utf8EncodeChar := by
  rw [utf8Bytes, String.toUTF8, ← String.utf8Encode_toList, List.utf8Encode,
    List.data_toByteArray, List.toList_toArray]

/-- Somewhere the two lists differ, and where they first do, the first list is smaller. -/
inductive Precedes : List UInt8 → List UInt8 → Prop
  | here {x y : UInt8} {xs ys : List UInt8} : x < y → Precedes (x :: xs) (y :: ys)
  | behind {x : UInt8} {xs ys : List UInt8} : Precedes xs ys → Precedes (x :: xs) (x :: ys)

/-- What follows the lists does not matter. -/
theorem Precedes.append_lt {xs ys : List UInt8} (h : Precedes xs ys) (more others : List UInt8) :
    xs ++ more < ys ++ others := by
  induction h with
  | here hxy => exact .rel hxy
  | behind _ ih => exact .cons ih

theorem ofNat_lt_ofNat {m n : Nat} (h : m < n) (hn : n < 256) : UInt8.ofNat m < UInt8.ofNat n := by
  rw [UInt8.lt_iff_toNat_lt, UInt8.toNat_ofNat', UInt8.toNat_ofNat']
  omega

/-- Bytes of two numbers that are equal or in order, before bytes that settle the first case. -/
theorem precedes_cons {m n : Nat} {xs ys : List UInt8} (hn : n < 256) (hle : m ≤ n)
    (h : m = n → Precedes xs ys) : Precedes (UInt8.ofNat m :: xs) (UInt8.ofNat n :: ys) := by
  rcases Nat.lt_or_eq_of_le hle with hlt | rfl
  · exact .here (ofNat_lt_ofNat hlt hn)
  · exact .behind (h rfl)

/-- **UTF-8 keeps the order of characters.** Encodings of one length compare digit by digit, in
base 64; of two lengths, the first byte tells the longer one. -/
theorem precedes_utf8EncodeChar {c d : Char} (h : c < d) :
    Precedes (String.utf8EncodeChar c) (String.utf8EncodeChar d) := by
  have hcodes : c.val.toNat < d.val.toNat := h
  have hvalid : d.val.toNat < 1114112 := by
    have hranges : d.val.toNat < 55296 ∨ 57343 < d.val.toNat ∧ d.val.toNat < 1114112 := d.valid
    omega
  unfold String.utf8EncodeChar
  generalize c.val.toNat = m at hcodes
  generalize d.val.toNat = n at hcodes hvalid
  dsimp only
  split
  · -- One byte against any number of bytes.
    split
    · exact .here (ofNat_lt_ofNat hcodes (by omega))
    · split
      · exact .here (ofNat_lt_ofNat (by omega) (by omega))
      · split
        · exact .here (ofNat_lt_ofNat (by omega) (by omega))
        · exact .here (ofNat_lt_ofNat (by omega) (by omega))
  · rw [if_neg (show ¬ n ≤ 127 by omega)]
    split
    · -- Two bytes against two or more.
      split
      · refine precedes_cons (by omega) (by omega) fun _ => ?_
        exact .here (ofNat_lt_ofNat (by omega) (by omega))
      · split
        · exact .here (ofNat_lt_ofNat (by omega) (by omega))
        · exact .here (ofNat_lt_ofNat (by omega) (by omega))
    · rw [if_neg (show ¬ n ≤ 2047 by omega)]
      split
      · -- Three bytes against three or four.
        split
        · refine precedes_cons (by omega) (by omega) fun _ => ?_
          refine precedes_cons (by omega) (by omega) fun _ => ?_
          exact .here (ofNat_lt_ofNat (by omega) (by omega))
        · exact .here (ofNat_lt_ofNat (by omega) (by omega))
      · rw [if_neg (show ¬ n ≤ 65535 by omega)]
        refine precedes_cons (by omega) (by omega) fun _ => ?_
        refine precedes_cons (by omega) (by omega) fun _ => ?_
        refine precedes_cons (by omega) (by omega) fun _ => ?_
        exact .here (ofNat_lt_ofNat (by omega) (by omega))

/-! ### Strings -/

/-- What is before two lists does not change how they compare. -/
theorem append_lt_append_iff (before xs ys : List UInt8) :
    before ++ xs < before ++ ys ↔ xs < ys := by
  induction before with
  | nil => rfl
  | cons b before ih => simpa [List.cons_lt_cons_iff] using ih

theorem flatMap_utf8EncodeChar_lt {cs ds : List Char} (h : cs < ds) :
    cs.flatMap String.utf8EncodeChar < ds.flatMap String.utf8EncodeChar := by
  induction h with
  | @nil d ds =>
    obtain ⟨b, bytes, hbytes⟩ :=
      List.exists_cons_of_ne_nil (String.utf8EncodeChar_ne_nil (c := d))
    rw [List.flatMap_cons, hbytes]
    exact .nil
  | @rel c cs d ds hcd =>
    rw [List.flatMap_cons, List.flatMap_cons]
    exact (precedes_utf8EncodeChar hcd).append_lt _ _
  | @cons c cs ds _ ih =>
    rw [List.flatMap_cons, List.flatMap_cons, append_lt_append_iff]
    exact ih

/-- **The order of strings is that of their bytes.** -/
theorem lt_iff_utf8Bytes_lt {s t : String} : s < t ↔ utf8Bytes s < utf8Bytes t := by
  have hmono {s t : String} (h : s < t) : utf8Bytes s < utf8Bytes t := by
    rw [utf8Bytes_eq_flatMap, utf8Bytes_eq_flatMap]
    exact flatMap_utf8EncodeChar_lt (String.lt_iff_toList_lt.mp h)
  constructor
  · exact hmono
  · intro h
    rcases lt_trichotomy s t with hlt | rfl | hgt
    · exact hlt
    · exact absurd h (List.lt_irrefl _)
    · exact absurd h (List.lt_asymm (hmono hgt))

end CodeReview.Text
