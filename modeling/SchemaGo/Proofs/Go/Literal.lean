import Mathlib
import SchemaGo.Go.Literal
import SchemaGo.Proofs.Go.Scan

/-!
String literals are read back: whatever the text, its literal is one lexeme.
-/

namespace SchemaGo.Go

open Text Lexeme

/-! ### Hexadecimal digits -/

lemma hexPadded_length (k n : ℕ) : (hexPadded k n).length = k := by
  induction k generalizing n with
  | zero => rfl
  | succ k ih => simp [hexPadded, ih]

lemma isHexDigit_of_mem_hexPadded {k n : ℕ} {c : Char} (h : c ∈ hexPadded k n) :
    Number.isHexDigit c = true := by
  induction k generalizing n with
  | zero => simp [hexPadded] at h
  | succ k ih =>
    have key : ∀ d < 16, Number.isHexDigit (hexDigit d) = true := by decide +kernel
    simp only [hexPadded, List.mem_append, List.mem_singleton] at h
    rcases h with h | rfl
    · exact ih h
    · exact key _ (Nat.mod_lt _ (by omega))

lemma startsHex_hexPadded (k n : ℕ) (cs : List Char) :
    startsHex k (hexPadded k n ++ cs) = true := by
  simp only [startsHex, List.take_left' (hexPadded_length k n), hexPadded_length]
  simpa using fun c => isHexDigit_of_mem_hexPadded

/-! ### Interpreted literals -/

/-- A character that stands for itself in an interpreted string. -/
def isVerbatim (c : Char) : Bool := c != '"' && c != '\n' && c != '\\'

lemma stringLength_verbatim {c : Char} (h : isVerbatim c = true) (cs : List Char) :
    stringLength (c :: cs) = (stringLength cs).map (· + 1) := by
  simp only [isVerbatim, Bool.and_eq_true, bne_iff_ne, ne_eq] at h
  obtain ⟨⟨h1, h2⟩, h3⟩ := h
  rw [stringLength] <;> simp_all

lemma stringLength_all_verbatim {xs : List Char} (h : ∀ c ∈ xs, isVerbatim c = true)
    (cs : List Char) :
    stringLength (xs ++ cs) = (stringLength cs).map (· + xs.length) := by
  induction xs with
  | nil => simp
  | cons x xs ih =>
    rw [List.cons_append, stringLength_verbatim (h x (by simp)),
      ih fun c hc => h c (by simp [hc])]
    simp [Function.comp_def, Nat.add_assoc]

lemma isVerbatim_of_isHexDigit {c : Char} (h : Number.isHexDigit c = true) :
    isVerbatim c = true := by
  by_contra hn
  have hc : c = '"' ∨ c = '\n' ∨ c = '\\' := by
    simp only [isVerbatim, Bool.and_eq_true, bne_iff_ne, ne_eq] at hn
    tauto
  rcases hc with rfl | rfl | rfl <;> simp [Number.isHexDigit] at h

lemma stringLength_escape {c : Char} {cs : List Char} (h : isEscape c cs = true) :
    stringLength ('\\' :: c :: cs) = (stringLength cs).map (· + 2) := by
  rw [stringLength, if_pos h]

lemma stringLength_literalChar (c : Char) (cs : List Char) :
    stringLength (literalChar c ++ cs) =
      (stringLength cs).map (· + (literalChar c).length) := by
  unfold literalChar
  split
  · exact stringLength_escape rfl
  · exact stringLength_escape rfl
  · exact stringLength_escape rfl
  · exact stringLength_escape rfl
  · exact stringLength_escape rfl
  · next h1 h2 h3 _ _ =>
    split
    · -- a control character is an escape with four digits
      have hx : isEscape 'u' (hexPadded 4 c.toNat ++ cs) = true :=
        startsHex_hexPadded 4 c.toNat cs
      have hv : ∀ d ∈ hexPadded 4 c.toNat, isVerbatim d = true := fun d hd =>
        isVerbatim_of_isHexDigit (isHexDigit_of_mem_hexPadded hd)
      rw [List.cons_append, List.cons_append, stringLength_escape hx,
        stringLength_all_verbatim hv]
      simp [Function.comp_def, Nat.add_assoc]
    · refine stringLength_verbatim ?_ cs
      simpa [isVerbatim] using ⟨⟨h1, h3⟩, h2⟩

lemma stringLength_literal (xs cs : List Char) :
    stringLength (xs.flatMap literalChar ++ '"' :: cs) =
      some ((xs.flatMap literalChar).length + 1) := by
  induction xs with
  | nil => rfl
  | cons x xs ih =>
    rw [List.flatMap_cons, List.append_assoc, stringLength_literalChar, ih]
    simp only [Option.map_some, List.length_append, Option.some.injEq]
    omega

/-- A quoted text is one lexeme if the string behind its first quote ends at the last one. -/
lemma reads_string {s : String} {xs : List Char} (hs : s.toList = '"' :: xs) {cs : List Char}
    (hx : stringLength (xs ++ cs) = some xs.length) : Reads (.string s) cs := by
  refine ⟨'"', xs, hs, ?_⟩
  have hb : isBlank '"' = false := by rfl
  have hi : Unicode.isIdentStart '"' = false := by rfl
  unfold scanOne
  simp [hb, hi, hx, splitOrMark, split, ← hs]

/-- **Whatever its text, a string literal is read back.** -/
theorem reads_stringLiteral (s : String) (cs : List Char) :
    Reads (.string (stringLiteral s)) cs := by
  have hs : (stringLiteral s).toList = '"' :: (s.toList.flatMap literalChar ++ ['"']) := by
    simp [stringLiteral]
  refine reads_string hs ?_
  rw [List.append_assoc]
  simpa using stringLength_literal s.toList cs

/-! ### Raw literals -/

lemma rawLength_eq {xs : List Char} (h : '\x60' ∉ xs) (cs : List Char) :
    rawLength (xs ++ '\x60' :: cs) = some (xs.length + 1) := by
  induction xs with
  | nil => rfl
  | cons x xs ih =>
    rw [List.mem_cons, not_or] at h
    have hx : (x == '\x60') = false := by simpa using Ne.symm h.1
    rw [List.cons_append, rawLength, hx, if_neg Bool.false_ne_true, ih h.2]
    rfl

/-- A text without backquotes is one lexeme between two of them. -/
lemma reads_rawLiteral {s : String} (h : '\x60' ∉ s.toList) (cs : List Char) :
    Reads (.string ("\x60" ++ s ++ "\x60")) cs := by
  refine ⟨'\x60', s.toList ++ ['\x60'], by simp [Lexeme.text], ?_⟩
  have hb : isBlank '\x60' = false := by rfl
  have hi : Unicode.isIdentStart '\x60' = false := by rfl
  unfold scanOne
  simp [hb, hi, rawLength_eq h, splitOrMark, split]
  apply String.toList_injective
  simp [List.take_length_add_append]

/-- **Whatever the statement, its literal is read back.** -/
theorem reads_sqlLiteral (sql : String) (cs : List Char) : Reads (.string (sqlLiteral sql)) cs := by
  rw [sqlLiteral]
  split
  · exact reads_stringLiteral _ cs
  · next h => exact reads_rawLiteral (by simpa using h) cs

lemma sqlLiteral_head (sql : String) (cs : List Char) :
    ∀ c ∈ ((sqlLiteral sql).toList ++ cs).head?, isSpace c = false := by
  intro c hc
  rw [sqlLiteral] at hc
  split at hc
  · obtain rfl : '"' = c := by simpa [stringLiteral] using hc
    rfl
  · obtain rfl : '\x60' = c := by simpa using hc
    rfl

end SchemaGo.Go
