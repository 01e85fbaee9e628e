import Mathlib
import SchemaGo.Proofs.Go.Name

/-!
Names that are identifiers. A column always has one that is exported, and the same one however the
words of its name are set apart. The name of an argument is never reserved, and it is an identifier
unless a digit comes before all letters of the parameter.
-/

namespace SchemaGo

open Go Naming Lexeme

/-! ### What sets words apart -/

namespace Naming

/-- No character of the text is a letter or a digit. -/
def isGap (s : String) : Bool := s.toList.all fun c => !Unicode.isAlphanumeric c

/-- The two texts differ in gaps alone: in those between their parts, where both have one, and in
those at their ends. -/
inductive Respaced : String → String → Prop
  | between (s t x y : String) (hx : isGap x = true) (hy : isGap y = true) (hxne : x ≠ "")
      (hyne : y ≠ "") : Respaced (s ++ x ++ t) (s ++ y ++ t)
  | around (s x y x' y' : String) (hx : isGap x = true) (hy : isGap y = true)
      (hx' : isGap x' = true) (hy' : isGap y' = true) : Respaced (x ++ s ++ y) (x' ++ s ++ y')
  | trans {s t u : String} : Respaced s t → Respaced t u → Respaced s u

variable {s t x y : String}

lemma words_empty : words "" = [] := rfl

lemma words_gap_append (hx : isGap x = true) (t : String) : words (x ++ t) = words t := by
  obtain ⟨cs, rfl⟩ : ∃ cs, String.ofList cs = x := ⟨x.toList, String.ofList_toList⟩
  rw [isGap, String.toList_ofList] at hx
  induction cs with
  | nil => rw [String.ofList_nil, String.empty_append]
  | cons c cs ih =>
    rw [List.all_cons, Bool.and_eq_true, Bool.not_eq_true'] at hx
    have hcons : (String.ofList (c :: cs) ++ t).toList = c :: (String.ofList cs ++ t).toList := by
      simp
    have h := words_append_cons (s := "") hcons hx.1
    rw [String.empty_append, words_empty, List.nil_append] at h
    exact h.trans (ih hx.2)

/-- The words in front of a gap and behind it do not hang together. -/
lemma words_append_gap_append (hx : isGap x = true) (hne : x ≠ "") (s t : String) :
    words (s ++ x ++ t) = words s ++ words t := by
  obtain ⟨c, cs, hcs⟩ := List.exists_cons_of_ne_nil (by simpa using hne : x.toList ≠ [])
  rw [isGap, hcs, List.all_cons, Bool.and_eq_true, Bool.not_eq_true'] at hx
  have hcons : (x ++ t).toList = c :: (String.ofList cs ++ t).toList := by simp [hcs]
  rw [String.append_assoc, words_append_cons hcons hx.1]
  congr 1
  exact words_gap_append (by simpa [isGap] using hx.2) t

lemma words_append_gap (hx : isGap x = true) (s : String) : words (s ++ x) = words s := by
  by_cases hne : x = ""
  · rw [hne, String.append_empty]
  · have h := words_append_gap_append hx hne s ""
    rwa [String.append_empty, words_empty, List.append_nil] at h

/-- **Gaps do not show in the words.** -/
theorem words_respaced (h : Respaced s t) : words t = words s := by
  induction h with
  | between s t x y hx hy hxne hyne =>
    rw [words_append_gap_append hx hxne, words_append_gap_append hy hyne]
  | around s x y x' y' hx hy hx' hy' =>
    rw [words_append_gap hy, words_append_gap hy', words_gap_append hx, words_gap_append hx']
  | trans _ _ ih₁ ih₂ => exact ih₂.trans ih₁

end Naming

namespace Go

variable {s : String}

/-! ### Columns -/

/-- **A column has an exported field, whatever sets the words of its name apart.** -/
theorem fieldName_isExported (s : String) :
    (isAsciiText s = true → isPascalName (fieldName s) = true ∧ fieldName s ∉ keywords) ∧
      ∀ t, Respaced s t → fieldName t = fieldName s := by
  refine ⟨fun hs => ?_, fun t ht => ?_⟩
  · have hname := isPascalName_fieldName hs
    obtain ⟨c, cs, hcs, hc, -⟩ := isPascalName_eq_true hname
    exact ⟨hname, not_mem_keywords (by simp [hcs]) hc⟩
  · rw [fieldName, fieldName, pascalCase, pascalCase, words_respaced ht]

theorem fieldName_isExported_createdAt :
    isAsciiText "2nd created_at" = true ∧ isPascalName (fieldName "2nd created_at") = true ∧
      fieldName "2nd created_at" ∉ keywords ∧
      fieldName "--2nd.created -- at?" = fieldName "2nd created_at" := by
  have hascii : isAsciiText "2nd created_at" = true := by decide
  obtain ⟨hexported, hspaced⟩ := fieldName_isExported "2nd created_at"
  refine ⟨hascii, (hexported hascii).1, (hexported hascii).2, hspaced _ ?_⟩
  have h₁ : Respaced "2nd created_at" "2nd.created_at" :=
    .between "2nd" "created_at" " " "." (by decide) (by decide) (by decide) (by decide)
  have h₂ : Respaced "2nd.created_at" "2nd.created -- at" :=
    .between "2nd.created" "at" "_" " -- " (by decide) (by decide) (by decide) (by decide)
  have h₃ : Respaced "2nd.created -- at" "--2nd.created -- at?" :=
    .around "2nd.created -- at" "" "" "--" "?" (by decide) (by decide) (by decide) (by decide)
  exact (h₁.trans h₂).trans h₃

/-! ### Arguments -/

/-- **Which arguments are identifiers**: those of parameters whose first letter or digit, if any, is
not a digit. No argument has a reserved name. -/
theorem argumentName_isWord_iff (hs : isAsciiText s = true) :
    (isWord (argumentName s) = true ↔
      ∀ c, s.toList.find? Unicode.isAlphanumeric = some c → c.isDigit = false) ∧
    argumentName s ∉ keywords ∧ argumentName s ∉ reservedLocals := by
  refine ⟨?_, not_or.mp fun h => argumentName_not_mem_reserved s (List.mem_append.mpr h)⟩
  rcases hf : s.toList.find? Unicode.isAlphanumeric with _ | c
  · have harg : argumentName s = "arg" := by
      rw [argumentName, (cased_eq_empty hf).2]
      rfl
    exact iff_of_true (by rw [harg]; decide) (by simp)
  · obtain ⟨e, he, hname⟩ : ∃ e : String, e.toList.all Char.isAlphanum = true ∧
        argumentName s = camelCase s ++ e := by
      rcases argumentName_cases s with ⟨hempty, -⟩ | ⟨-, hname⟩ | ⟨-, -, hname⟩
      · obtain ⟨ds, -, hds⟩ :=
          exists_cased_eq_cons hf (List.all_eq_true.mp hs c (List.mem_of_find?_eq_some hf))
        simp [hempty] at hds
      · exact ⟨"Arg", by decide, hname⟩
      · exact ⟨"", rfl, by rw [hname, String.append_empty]⟩
    rw [hname, isWord_camelCase_append hs hf he]
    simp

theorem argumentName_isWord_range :
    isAsciiText "_range" = true ∧ (isWord (argumentName "_range") = true ↔
      ∀ c, "_range".toList.find? Unicode.isAlphanumeric = some c → c.isDigit = false) ∧
    argumentName "_range" ∉ keywords ∧ argumentName "_range" ∉ reservedLocals :=
  ⟨by decide, argumentName_isWord_iff (by decide)⟩

/-- What is put behind a digit does not make an identifier of it. -/
theorem argumentName_twoFactor :
    isAsciiText "2fa" = true ∧ argumentName "2fa" = "2faArg" ∧
      isWord (argumentName "2fa") = false := by
  decide +kernel

end Go

end SchemaGo
