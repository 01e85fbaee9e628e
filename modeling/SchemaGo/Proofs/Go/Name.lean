import Mathlib
import SchemaGo.Proofs.Query.Plain

/-!
The names of arguments. An argument is called as its parameter is in camel case, unless that is no
name or one that is reserved. So it can be told which parameters get one name, and that what is
scanned for two columns gets one name only if the columns have one field.
-/

namespace SchemaGo

open Naming

/-! ### Names in camel case -/

namespace Naming

variable {s t e : String} {cs : List Char}

lemma words_append_cons {c : Char} (he : e.toList = c :: cs)
    (hc : Unicode.isAlphanumeric c = false) :
    words (s ++ e) = words s ++ (runs cs).flatMap (wordsOfRun .unknown []) := by
  rw [words, runs, String.toList_append, he, List.splitOnP_append_cons _ _ (by simp [hc]),
    List.flatMap_append]
  rfl

lemma words_append_raw (s : String) : words (s ++ "_raw") = words s ++ ["raw".toList] := by
  have hraw : (runs "raw".toList).flatMap (wordsOfRun .unknown []) = ["raw".toList] := by
    decide +kernel
  have hcons : "_raw".toList = '_' :: "raw".toList := rfl
  rw [words_append_cons hcons (by decide +kernel), hraw]

/-- What is added is a word of its own, and in upper case unless it is the only one. -/
lemma camelCase_append_raw (s : String) :
    words s = [] ∧ camelCase (s ++ "_raw") = "raw" ∨
      camelCase (s ++ "_raw") = camelCase s ++ "Raw" := by
  have hraw : capitalized "raw".toList = "Raw".toList := by decide +kernel
  rw [camelCase, words_append_raw]
  rcases hws : words s with _ | ⟨w, ws⟩
  · exact .inl ⟨rfl, by decide +kernel⟩
  · refine .inr (String.toList_injective ?_)
    simp only [List.cons_append, List.flatMap_append, List.flatMap_singleton, hraw,
      String.toList_ofList, String.toList_append, camelCase, hws, List.append_assoc]

/-- No character of a name in camel case is a mark of ASCII. -/
lemma camelCase_nameChar (s : String) : ∀ c ∈ (camelCase s).toList, isNameChar c = true := by
  have hall : ∀ w ∈ words s, ∀ c ∈ w, Unicode.isAlphanumeric c = true := fun w hw c hc =>
    (isAlphanumeric_of_mem_words hw hc).2
  intro c hc
  rw [camelCase] at hc
  split at hc
  · simp at hc
  · next w ws hws =>
    rw [hws] at hall
    rw [String.toList_ofList, List.mem_append, List.mem_flatMap] at hc
    rcases hc with hc | ⟨x, hx, hc⟩
    · exact lowerWord_nameChar (hall w (by simp)) c hc
    · exact capitalized_nameChar (hall x (by simp [hx])) c hc

/-! #### Camel case and Pascal case -/

/-- The first character in upper case. -/
def upperHead : List Char → List Char
  | [] => []
  | c :: cs => c.toUpper :: cs

/-- Of an ASCII text, the name in camel case tells the one in Pascal case. -/
lemma pascalCase_eq_upperHead (hs : isAsciiText s = true) :
    (pascalCase s).toList = upperHead (camelCase s).toList := by
  rcases hf : s.toList.find? Unicode.isAlphanumeric with _ | c
  · simp [cased_eq_empty hf, upperHead]
  · have hc := List.all_eq_true.mp hs c (List.mem_of_find?_eq_some hf)
    have htwice : c.toLower.toUpper = c.toUpper :=
      eq_of_beq (forall_ascii (p := fun c => c.toLower.toUpper == c.toUpper) (by decide +kernel) hc)
    obtain ⟨ds, hpascal, hcamel⟩ := exists_cased_eq_cons hf hc
    rw [hpascal, hcamel, upperHead, htwice]

end Naming

/-! ### Names of arguments -/

namespace Go

variable {s t : String}

/-- The words of the language, and those that the bodies of functions have for themselves. -/
def reserved : List String := keywords ++ reservedLocals

/-- The name cannot be that of an argument. -/
def isTaken (name : String) : Bool :=
  startsWithDigit name || keywords.contains name || reservedLocals.contains name

lemma isTaken_eq_false {name : String} :
    isTaken name = false ↔ startsWithDigit name = false ∧ name ∉ reserved := by
  simp [isTaken, reserved, and_assoc]

lemma argumentName_cases (s : String) :
    camelCase s = "" ∧ argumentName s = "arg" ∨
      isTaken (camelCase s) = true ∧ argumentName s = camelCase s ++ "Arg" ∨
      camelCase s ≠ "" ∧ isTaken (camelCase s) = false ∧ argumentName s = camelCase s := by
  have h : argumentName s = if (camelCase s).isEmpty then "arg"
      else if isTaken (camelCase s) then camelCase s ++ "Arg" else camelCase s := rfl
  by_cases he : camelCase s = ""
  · exact .inl ⟨he, by rw [h, he]; rfl⟩
  · rw [if_neg (by simpa using he)] at h
    rcases ht : isTaken (camelCase s)
    · exact .inr (.inr ⟨he, rfl, by rw [h, ht]; rfl⟩)
    · exact .inr (.inl ⟨rfl, by rw [h, ht]; rfl⟩)

lemma argumentName_of_free (hs : camelCase s ≠ "") (ht : isTaken (camelCase s) = false) :
    argumentName s = camelCase s := by
  rcases argumentName_cases s with ⟨h, -⟩ | ⟨h, -⟩ | ⟨-, -, h⟩
  · exact absurd h hs
  · simp [ht] at h
  · exact h

lemma ne_append {n e : String} (h : ¬ e.toList <:+ n.toList) (s : String) : n ≠ s ++ e := by
  rintro rfl
  exact h ⟨s.toList, by simp⟩

/-- What ends in letters that no reserved word ends in is not reserved. -/
lemma append_not_mem_reserved {e : String} (he : ∀ k ∈ reserved, ¬ e.toList <:+ k.toList)
    (s : String) : s ++ e ∉ reserved := fun hmem => ne_append (he _ hmem) s rfl

/-- **No argument has a reserved name.** -/
theorem argumentName_not_mem_reserved (s : String) : argumentName s ∉ reserved := by
  rcases argumentName_cases s with ⟨-, h⟩ | ⟨-, h⟩ | ⟨-, ht, h⟩
  · rw [h]
    decide +kernel
  · rw [h]
    exact append_not_mem_reserved (by decide +kernel) _
  · rw [h]
    exact (isTaken_eq_false.mp ht).2

/-- No argument is left without a name. -/
lemma argumentName_ne_blank (s : String) : argumentName s ≠ "_" := by
  have hblank : isNameChar '_' = false := by decide +kernel
  intro h
  rcases argumentName_cases s with ⟨-, hn⟩ | ⟨-, hn⟩ | ⟨-, -, hn⟩ <;> rw [hn] at h
  · exact absurd h (by decide)
  · exact ne_append (e := "Arg") (by decide) _ h.symm
  · have hc := camelCase_nameChar s '_' (by simp [h])
    simp [hblank] at hc

/-- The argument for `s` is renamed to what the one for `t` is called anyway. -/
def Yields (s t : String) : Prop :=
  camelCase s = "" ∧ camelCase t = "arg" ∨
    camelCase s ∈ reserved ∧ camelCase t = camelCase s ++ "Arg"

/-- The names are one in camel case, or one of them is renamed to what the other is called. -/
def Meet (s t : String) : Prop := camelCase s = camelCase t ∨ Yields s t ∨ Yields t s

instance : DecidableRel Yields := fun _ _ => inferInstanceAs (Decidable (_ ∨ _))

instance : DecidableRel Meet := fun _ _ => inferInstanceAs (Decidable (_ ∨ _))

lemma Meet.symm (h : Meet s t) : Meet t s := by
  rcases h with h | h | h
  · exact .inl h.symm
  · exact .inr (.inr h)
  · exact .inr (.inl h)

lemma startsWithDigit_append {e : String} (hs : startsWithDigit s = true) :
    startsWithDigit (s ++ e) = true := by
  unfold startsWithDigit at hs ⊢
  rcases hl : s.toList with _ | ⟨c, cs⟩
  · simp [hl] at hs
  · simpa [hl] using hs

lemma yields_of_renamed (ht : isTaken (camelCase t) = false)
    (h : camelCase s = "" ∧ camelCase t = "arg" ∨
      isTaken (camelCase s) = true ∧ camelCase t = camelCase s ++ "Arg") : Yields s t := by
  rcases h with h | ⟨hs, h⟩
  · exact .inl h
  · -- a digit in front would be in front of the other name too
    have hdigit : startsWithDigit (camelCase s) = false := by
      by_contra hd
      rw [Bool.not_eq_false] at hd
      rw [isTaken_eq_false, h, startsWithDigit_append hd] at ht
      simp at ht
    refine .inr ⟨?_, h⟩
    simpa [isTaken, hdigit, reserved] using hs

lemma Yields.argumentName_eq (h : Yields s t) : argumentName s = argumentName t := by
  rcases h with ⟨hs, ht⟩ | ⟨hs, ht⟩
  · have hfree := argumentName_of_free (s := t) (by rw [ht]; decide) (by rw [ht]; decide +kernel)
    rw [hfree, ht]
    rcases argumentName_cases s with ⟨-, h⟩ | ⟨h, -⟩ | ⟨h, -⟩
    · exact h
    · rw [hs] at h
      exact absurd h (by decide +kernel)
    · exact absurd hs h
  · have hall : ∀ k ∈ reserved, k ≠ "" ∧ isTaken k = true ∧ isTaken (k ++ "Arg") = false := by
      decide +kernel
    obtain ⟨hne, htaken, hfree⟩ := hall _ hs
    have hname := argumentName_of_free (s := t)
      (by rw [ht]; exact fun h => hne (String.append_eq_empty_iff.mp h).1) (by rw [ht]; exact hfree)
    rw [hname, ht]
    rcases argumentName_cases s with ⟨h, -⟩ | ⟨-, h⟩ | ⟨-, h, -⟩
    · exact absurd h hne
    · exact h
    · simp [htaken] at h

/-- **Which parameters get one name.** -/
theorem argumentName_eq_iff : argumentName s = argumentName t ↔ Meet s t := by
  unfold Meet
  constructor
  · intro h
    have harg : ∀ x, "arg" ≠ x ++ "Arg" := ne_append (by decide)
    rcases argumentName_cases s with ⟨hs, hn⟩ | ⟨hs, hn⟩ | ⟨-, hs, hn⟩ <;>
      rcases argumentName_cases t with ⟨ht, hm⟩ | ⟨ht, hm⟩ | ⟨-, ht, hm⟩ <;> rw [hn, hm] at h
    · exact .inl (hs.trans ht.symm)
    · exact absurd h (harg _)
    · exact .inr (.inl (yields_of_renamed ht (.inl ⟨hs, h.symm⟩)))
    · exact absurd h.symm (harg _)
    · exact .inl ((String.append_left_inj _).mp h)
    · exact .inr (.inl (yields_of_renamed ht (.inr ⟨hs, h.symm⟩)))
    · exact .inr (.inr (yields_of_renamed hs (.inl ⟨ht, h⟩)))
    · exact .inr (.inr (yields_of_renamed hs (.inr ⟨ht, h⟩)))
    · exact .inl h
  · rintro (h | h | h)
    · simp only [argumentName, h]
    · exact h.argumentName_eq
    · exact h.argumentName_eq.symm

/-! ### What is decoded -/

lemma not_yields_append_raw (s t : String) : ¬ Yields (s ++ "_raw") t := by
  rintro (⟨h, -⟩ | ⟨h, -⟩) <;> rcases camelCase_append_raw s with ⟨-, hs⟩ | hs <;> rw [hs] at h
  · exact absurd h (by decide)
  · exact absurd (String.append_eq_empty_iff.mp h).2 (by decide)
  · exact absurd h (by decide +kernel)
  · exact append_not_mem_reserved (by decide +kernel) _ h

/-- Bytes that are called the same are those of columns with one name in camel case. -/
lemma camelCase_of_argumentName_append_raw
    (h : argumentName (s ++ "_raw") = argumentName (t ++ "_raw")) : camelCase s = camelCase t := by
  have hraw : ∀ x, "raw" ≠ x ++ "Raw" := ne_append (by decide)
  have hempty : ∀ {x}, words x = [] → camelCase x = "" := fun hx => by rw [camelCase, hx]
  have hcamel : camelCase (s ++ "_raw") = camelCase (t ++ "_raw") := by
    rcases argumentName_eq_iff.mp h with h | h | h
    · exact h
    · exact absurd h (not_yields_append_raw s _)
    · exact absurd h (not_yields_append_raw t _)
  rcases camelCase_append_raw s with ⟨hs, hn⟩ | hn <;>
    rcases camelCase_append_raw t with ⟨ht, hm⟩ | hm <;> rw [hn, hm] at hcamel
  · rw [hempty hs, hempty ht]
  · exact absurd hcamel (hraw _)
  · exact absurd hcamel.symm (hraw _)
  · exact (String.append_left_inj _).mp hcamel

/-- **Of columns with ASCII names, those with fields of their own have bytes of their own.** -/
theorem fieldName_of_argumentName_append_raw (hs : isAsciiText s = true)
    (ht : isAsciiText t = true) (h : argumentName (s ++ "_raw") = argumentName (t ++ "_raw")) :
    fieldName s = fieldName t := by
  have hpascal : pascalCase s = pascalCase t := by
    apply String.toList_injective
    rw [pascalCase_eq_upperHead hs, pascalCase_eq_upperHead ht,
      camelCase_of_argumentName_append_raw h]
  rw [fieldName, fieldName, hpascal]

end Go

end SchemaGo
