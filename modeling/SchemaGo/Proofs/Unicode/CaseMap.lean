import Mathlib
import SchemaGo.Proofs.Naming
import SchemaGo.Text.Blank

/-!
What case does to single characters. Texts that differ in the case of ASCII letters alone have one
lower case, blanks and marks are left alone, and upper case has no lower case letters of ASCII.
-/

namespace SchemaGo.Unicode

open Naming Text

variable {c d : Char}

/-! ### Codes -/

lemma isLower_iff : c.isLower = true ↔ 97 ≤ c.toNat ∧ c.toNat ≤ 122 := by
  simp [Char.isLower, UInt32.le_iff_toNat_le]

lemma isUpper_iff : c.isUpper = true ↔ 65 ≤ c.toNat ∧ c.toNat ≤ 90 := by
  simp [Char.isUpper, UInt32.le_iff_toNat_le]

lemma isDigit_iff : c.isDigit = true ↔ 48 ≤ c.toNat ∧ c.toNat ≤ 57 := by
  simp [Char.isDigit, UInt32.le_iff_toNat_le]

lemma isAscii_iff : isAscii c = true ↔ c.toNat < 128 := decide_eq_true_iff

lemma isNameChar_iff : isNameChar c = true ↔
    65 ≤ c.toNat ∧ c.toNat ≤ 90 ∨ 97 ≤ c.toNat ∧ c.toNat ≤ 122 ∨
      48 ≤ c.toNat ∧ c.toNat ≤ 57 ∨ 128 ≤ c.toNat := by
  simp only [isNameChar, Char.isAlphanum, Char.isAlpha, Bool.or_eq_true, Bool.not_eq_true',
    ← Bool.not_eq_true, isUpper_iff, isLower_iff, isDigit_iff, isAscii_iff, not_lt, or_assoc]

lemma toNat_lower (c : Char) :
    c.toLower.toNat = if 65 ≤ c.toNat ∧ c.toNat ≤ 90 then c.toNat + 32 else c.toNat := by
  rw [Char.toLower]
  split
  · next h =>
    have hc : 65 ≤ c.toNat ∧ c.toNat ≤ 90 := by simpa [UInt32.le_iff_toNat_le] using h
    rw [if_pos hc, ← Char.toNat_val]
    simp [UInt32.toNat_add]
    omega
  · next h =>
    have hc : ¬ (65 ≤ c.toNat ∧ c.toNat ≤ 90) := by simpa [UInt32.le_iff_toNat_le] using h
    rw [if_neg hc]

lemma toNat_upper (c : Char) :
    c.toUpper.toNat = if 97 ≤ c.toNat ∧ c.toNat ≤ 122 then c.toNat - 32 else c.toNat := by
  rw [Char.toUpper]
  split
  · next h =>
    have hc : 97 ≤ c.toNat ∧ c.toNat ≤ 122 := by simpa [UInt32.le_iff_toNat_le] using h
    rw [if_pos hc, ← Char.toNat_val]
    simp [UInt32.toNat_add]
    omega
  · next h =>
    have hc : ¬ (97 ≤ c.toNat ∧ c.toNat ≤ 122) := by simpa [UInt32.le_iff_toNat_le] using h
    rw [if_neg hc]

/-! ### Lower case within ASCII -/

/-- All but the upper case letters of ASCII are left alone. -/
lemma lower_eq_self (h : c.toNat < 65 ∨ 90 < c.toNat) : c.toLower = c := by
  rw [← Char.toNat_inj, toNat_lower, if_neg (by omega)]

lemma isBlank_lower (c : Char) : isBlank c.toLower = isBlank c := by
  by_cases hc : c.toNat < 65 ∨ 90 < c.toNat
  · rw [lower_eq_self hc]
  · -- no letter is blank
    have hn := toNat_lower c
    rw [if_pos (by omega)] at hn
    rw [Bool.eq_iff_iff]
    simp only [isBlank, hn, Bool.or_eq_true, Bool.and_eq_true, decide_eq_true_eq, beq_iff_eq]
    omega

lemma lower_lower (c : Char) : c.toLower.toLower = c.toLower := by
  refine lower_eq_self ?_
  rw [toNat_lower]
  split <;> omega

/-- Only letters have another lower case than themselves. -/
lemma eq_of_lower_mark (h : isNameChar c.toLower = false) : c.toLower = c := by
  rw [← Bool.not_eq_true, isNameChar_iff, toNat_lower] at h
  refine lower_eq_self ?_
  split at h <;> omega

/-! ### Full lower case -/

lemma toLower_of_isAscii (h : isAscii c = true) : toLower c = [c.toLower] := by
  rw [toLower, if_pos (isAscii_iff.mp h)]

lemma toLower_lower (c : Char) : toLower c.toLower = toLower c := by
  by_cases hc : c.toNat < 65 ∨ 90 < c.toNat
  · rw [lower_eq_self hc]
  · have hn := toNat_lower c
    rw [if_pos (by omega)] at hn
    rw [toLower_of_isAscii (isAscii_iff.mpr (by omega)),
      toLower_of_isAscii (isAscii_iff.mpr (by omega)), lower_lower]

/-- Texts that differ in the case of ASCII letters alone have one lower case. -/
lemma flatMap_toLower_lower (cs : List Char) :
    (cs.map Char.toLower).flatMap toLower = cs.flatMap toLower := by
  rw [List.flatMap_map]
  exact List.flatMap_congr fun c _ => toLower_lower c

/-- A mark of ASCII in lower case was there before. -/
lemma eq_of_mem_toLower (hd : d ∈ toLower c) (hm : isNameChar d = false) : d = c := by
  rcases hc : isAscii c
  · have hn := toLower_nameChar_of_not_ascii hc d hd
    rw [hm] at hn
    exact absurd hn (by decide)
  · rw [toLower_of_isAscii hc] at hd
    obtain rfl := List.mem_singleton.mp hd
    exact eq_of_lower_mark hm

/-- The blanks beyond ASCII. -/
def wideBlanks : List Char :=
  ['\u0085', '\u00A0', '\u1680', '\u2000', '\u2001', '\u2002', '\u2003', '\u2004', '\u2005',
    '\u2006', '\u2007', '\u2008', '\u2009', '\u200A', '\u2028', '\u2029', '\u202F', '\u205F',
    '\u3000']

lemma mem_wideBlanks (hb : isBlank c = true) (hc : isAscii c = false) : c ∈ wideBlanks := by
  have hcodes : c.toNat ∈ wideBlanks.map Char.toNat := by
    simp only [isBlank, Bool.or_eq_true, Bool.and_eq_true, decide_eq_true_eq, beq_iff_eq] at hb
    simp only [isAscii, decide_eq_false_iff_not] at hc
    simp only [wideBlanks, List.map_cons, List.map_nil, List.mem_cons, Char.reduceToNat]
    omega
  obtain ⟨d, hd, he⟩ := List.mem_map.mp hcodes
  rwa [← Char.toNat_inj.mp he]

/-- Blanks have no case. -/
lemma toLower_of_isBlank (hb : isBlank c = true) : toLower c = [c] := by
  rcases hc : isAscii c
  · have hall : wideBlanks.all (fun d => toLower d == [d]) = true := by decide
    exact eq_of_beq (List.all_eq_true.mp hall c (mem_wideBlanks hb hc))
  · simp only [isBlank, Bool.or_eq_true, Bool.and_eq_true, decide_eq_true_eq, beq_iff_eq] at hb
    have hlt := isAscii_iff.mp hc
    rw [toLower_of_isAscii hc, lower_eq_self (by omega)]

lemma flatMap_toLower_of_blank {w : List Char} (hw : ∀ c ∈ w, isBlank c = true) :
    w.flatMap toLower = w := by
  induction w with
  | nil => rfl
  | cons c w ih =>
    rw [List.flatMap_cons, toLower_of_isBlank (hw c (by simp)), ih fun d hd => hw d (by simp [hd])]
    rfl

/-! ### Upper case -/

/-- No character has a lower case letter of ASCII in its upper case. -/
lemma isLower_of_mem_toUpper (hd : d ∈ toUpper c) : d.isLower = false := by
  suffices h : (!d.isLower) = true by simpa using h
  rcases hc : isAscii c
  · have hlt : ¬ c.toNat < 128 := fun hlt => by simp [isAscii_iff.mpr hlt] at hc
    have hbeyond : ∀ d, isAscii d = false → (!d.isLower) = true := by
      intro d hd
      rw [Bool.not_eq_true', ← Bool.not_eq_true, isLower_iff]
      rw [← Bool.not_eq_true, isAscii_iff] at hd
      omega
    rw [toUpper, if_neg hlt] at hd
    exact apply_all hbeyond (by decide) (by decide) hc d hd
  · rw [toUpper, if_pos (isAscii_iff.mp hc)] at hd
    rw [List.mem_singleton.mp hd, Bool.not_eq_true', ← Bool.not_eq_true, isLower_iff, toNat_upper]
    split <;> omega

end SchemaGo.Unicode
