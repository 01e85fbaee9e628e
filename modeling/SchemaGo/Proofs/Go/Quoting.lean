import Mathlib
import SchemaGo.Proofs.Go.LiteralValue

/-!
The form of interpreted literals. Between the quotes of a literal there are no control characters,
each further quote is escaped, and the last one is not.
-/

namespace SchemaGo.Go

open Text

variable {c : Char} {xs ys before behind : List Char}

/-- Whether a character behind the text is escaped: the text ends in a backslash that is not
escaped itself. -/
def escapesNext (cs : List Char) : Bool :=
  cs.foldl (fun escaped c => c == '\\' && !escaped) false

/-- What stands for a character: itself, an escape of two characters, or its number. -/
lemma literalChar_cases (c : Char) :
    (literalChar c = [c] ∧ isControl c = false ∧ c ≠ '"' ∧ c ≠ '\\') ∨
      (∃ e ∈ ['"', '\\', 'n', 'r', 't'], literalChar c = ['\\', e]) ∨
      literalChar c = '\\' :: 'u' :: hexPadded 4 c.toNat := by
  unfold literalChar
  split
  · exact .inr (.inl ⟨'"', by decide, rfl⟩)
  · exact .inr (.inl ⟨'\\', by decide, rfl⟩)
  · exact .inr (.inl ⟨'n', by decide, rfl⟩)
  · exact .inr (.inl ⟨'r', by decide, rfl⟩)
  · exact .inr (.inl ⟨'t', by decide, rfl⟩)
  · next hquote hslash _ _ _ =>
    split
    · exact .inr (.inr rfl)
    · next hc => exact .inl ⟨rfl, by simpa using hc, hquote, hslash⟩

/-! ### Control characters -/

lemma isControl_of_isHexDigit (h : Number.isHexDigit c = true) : isControl c = false := by
  have key : ∀ n < 160, isControl (Char.ofNat n) = true →
      Number.isHexDigit (Char.ofNat n) = false := by
    decide +kernel
  by_contra hc
  rw [Bool.not_eq_false] at hc
  have hlt : c.toNat < 160 := by
    simp only [isControl, Bool.or_eq_true, Bool.and_eq_true, decide_eq_true_eq] at hc
    omega
  have hn := key c.toNat hlt
  rw [Char.ofNat_toNat, h] at hn
  cases hn hc

lemma isControl_of_mem_literalChar {d : Char} (h : d ∈ literalChar c) : isControl d = false := by
  rcases literalChar_cases c with ⟨hc, hcontrol, -⟩ | ⟨e, he, hc⟩ | hc <;> rw [hc] at h
  · rwa [List.mem_singleton.mp h]
  · simp only [List.mem_cons, List.not_mem_nil, or_false] at he h
    rcases h with rfl | rfl
    · rfl
    · rcases he with rfl | rfl | rfl | rfl | rfl <;> rfl
  · rcases List.mem_cons.mp h with rfl | h
    · rfl
    rcases List.mem_cons.mp h with rfl | h
    · rfl
    · exact isControl_of_isHexDigit (isHexDigit_of_mem_hexPadded h)

/-! ### Quotes -/

lemma escapesNext_append (h : escapesNext xs = false) (ys : List Char) :
    escapesNext (xs ++ ys) = escapesNext ys := by
  unfold escapesNext at h ⊢
  rw [List.foldl_append, h]

lemma escapesNext_of_notMem (h : '\\' ∉ xs) : escapesNext xs = false := by
  induction xs with
  | nil => rfl
  | cons x xs ih =>
    rw [List.mem_cons, not_or] at h
    have hx : escapesNext [x] = false := by simpa [escapesNext] using Ne.symm h.1
    rw [← List.singleton_append, escapesNext_append hx, ih h.2]

/-- No escape is left open behind a character. -/
lemma escapesNext_literalChar (c : Char) : escapesNext (literalChar c) = false := by
  rcases literalChar_cases c with ⟨hc, -, -, hslash⟩ | ⟨e, he, hc⟩ | hc <;> rw [hc]
  · exact escapesNext_of_notMem (by simpa using Ne.symm hslash)
  · simp only [List.mem_cons, List.not_mem_nil, or_false] at he
    rcases he with rfl | rfl | rfl | rfl | rfl <;> rfl
  · have hdigits : '\\' ∉ hexPadded 4 c.toNat := fun h =>
      absurd (isHexDigit_of_mem_hexPadded h) (by decide)
    have hopened : escapesNext ['\\', 'u'] = false := rfl
    exact (escapesNext_append hopened _).trans (escapesNext_of_notMem hdigits)

lemma escapesNext_literal (xs : List Char) : escapesNext (xs.flatMap literalChar) = false := by
  induction xs with
  | nil => rfl
  | cons x xs ih => rw [List.flatMap_cons, escapesNext_append (escapesNext_literalChar x), ih]

/-- A quote is written as an escape. -/
lemma escapesNext_of_literalChar (h : literalChar c = before ++ '"' :: behind) :
    escapesNext before = true := by
  rcases literalChar_cases c with ⟨hc, -, hquote, -⟩ | ⟨e, he, hc⟩ | hc <;> rw [hc] at h
  · have hmem : '"' ∈ [c] := h ▸ List.mem_append_right _ List.mem_cons_self
    exact absurd (List.mem_singleton.mp hmem).symm hquote
  · rcases before with _ | ⟨x, _ | ⟨y, rest⟩⟩
    · simp at h
    · obtain ⟨rfl, -⟩ := List.cons.inj h
      rfl
    · simp at h
  · have hmem : '"' ∈ '\\' :: 'u' :: hexPadded 4 c.toNat :=
      h ▸ List.mem_append_right _ List.mem_cons_self
    simp only [List.mem_cons, Char.reduceEq, false_or] at hmem
    exact absurd (isHexDigit_of_mem_hexPadded hmem) (by decide)

/-- Every quote inside a literal is escaped. -/
lemma escapesNext_of_literal (h : xs.flatMap literalChar = before ++ '"' :: behind) :
    escapesNext before = true := by
  induction xs generalizing before with
  | nil => simp at h
  | cons x xs ih =>
    rw [List.flatMap_cons, List.append_eq_append_iff] at h
    rcases h with ⟨rest, rfl, hrest⟩ | ⟨rest, hx, hrest⟩
    · -- the quote is behind what stands for `x`
      rw [escapesNext_append (escapesNext_literalChar x)]
      exact ih hrest
    · rcases rest with _ | ⟨d, rest⟩
      · have hnone : escapesNext [] = true := ih hrest.symm
        exact absurd hnone (by decide)
      · obtain ⟨rfl, -⟩ := List.cons.inj hrest
        exact escapesNext_of_literalChar hx

/-- **The form of a literal.** -/
theorem stringLiteral_form (s : String) :
    ∃ body, (stringLiteral s).toList = '"' :: body ++ ['"'] ∧
      (∀ c ∈ body, isControl c = false) ∧
      (∀ before behind, body = before ++ '"' :: behind → escapesNext before = true) ∧
      escapesNext body = false := by
  refine ⟨s.toList.flatMap literalChar, by simp [stringLiteral], fun c hc => ?_,
    fun before behind h => escapesNext_of_literal h, escapesNext_literal _⟩
  obtain ⟨x, -, hx⟩ := List.mem_flatMap.mp hc
  exact isControl_of_mem_literalChar hx

end SchemaGo.Go
