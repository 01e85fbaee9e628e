import Mathlib
import SchemaGo.Text.Blank

/-!
Texts without the blanks at their ends. What is left of a text put together from two parts hangs on
which of the parts is blank.
-/

namespace SchemaGo.Text

variable {a b w cs : List Char}

lemma trimStart_suffix (cs : List Char) : trimStart cs <:+ cs := List.dropWhile_suffix _

lemma trimEnd_isPrefix (cs : List Char) : trimEnd cs <+: cs := by
  rw [← List.reverse_suffix, trimEnd, List.reverse_reverse]
  exact List.dropWhile_suffix _

/-! ### Blank texts -/

lemma trimStart_eq_nil_iff : trimStart cs = [] ↔ ∀ c ∈ cs, isBlank c = true :=
  List.dropWhile_eq_nil_iff

lemma trimEnd_eq_nil_iff : trimEnd cs = [] ↔ ∀ c ∈ cs, isBlank c = true := by
  simp [trimEnd]

lemma trimStart_eq_self (h : ∀ c ∈ cs.head?, isBlank c = false) : trimStart cs = cs := by
  cases cs with
  | nil => rfl
  | cons c cs => simp [trimStart, h c rfl]

lemma trimEnd_eq_self (h : ∀ c ∈ cs.getLast?, isBlank c = false) : trimEnd cs = cs := by
  rw [trimEnd, ← trimStart, trimStart_eq_self (by simpa using h), List.reverse_reverse]

lemma trim_eq_self (h : ∀ c ∈ cs, isBlank c = false) : trim cs = cs := by
  rw [trim, trimStart_eq_self fun c hc => h c (List.mem_of_mem_head? hc),
    trimEnd_eq_self fun c hc => h c (List.mem_of_getLast? hc)]

lemma trim_eq_nil_iff : trim cs = [] ↔ trimStart cs = [] := by
  rw [trim, trimEnd_eq_nil_iff, ← trimStart_eq_nil_iff, trimStart, trimStart,
    List.dropWhile_idempotent]

/-! ### Parts -/

lemma trimStart_append (a b : List Char) :
    trimStart (a ++ b) = if trimStart a = [] then trimStart b else trimStart a ++ b := by
  simp only [trimStart, List.dropWhile_append, List.isEmpty_iff]
  congr

lemma trimEnd_append (a b : List Char) :
    trimEnd (a ++ b) = if trimEnd b = [] then trimEnd a else a ++ trimEnd b := by
  simp only [trimEnd, List.reverse_append, List.dropWhile_append, List.isEmpty_iff,
    List.reverse_eq_nil_iff]
  split <;> simp

lemma trimEnd_trimStart_suffix (cs : List Char) : trim cs <:+ trimEnd cs := by
  obtain ⟨front, hf⟩ := trimStart_suffix cs
  have h := trimEnd_append front (trimStart cs)
  rw [hf] at h
  rw [trim]
  split at h
  · next he => simp [he]
  · exact ⟨front, h.symm⟩

lemma trim_append_of_blank (hw : ∀ c ∈ w, isBlank c = true) (cs : List Char) :
    trim (cs ++ w) = trim cs := by
  have hstart := trimStart_eq_nil_iff.mpr hw
  have hend := trimEnd_eq_nil_iff.mpr hw
  rw [trim, trim, trimStart_append]
  split
  · next hcs => rw [hstart, hcs]
  · rw [trimEnd_append, if_pos hend]

lemma trimEnd_blank (cs : List Char) : ∃ w, cs = trimEnd cs ++ w ∧ ∀ c ∈ w, isBlank c = true := by
  refine ⟨(cs.reverse.takeWhile isBlank).reverse, ?_, fun c hc => ?_⟩
  · rw [trimEnd, ← List.reverse_append, List.takeWhile_append_dropWhile, List.reverse_reverse]
  · exact List.mem_takeWhile_imp (List.mem_reverse.mp hc)

lemma trim_blank_append (hw : ∀ c ∈ w, isBlank c = true) (cs : List Char) :
    trim (w ++ cs) = trim cs := by
  rw [trim, trimStart_append, if_pos (trimStart_eq_nil_iff.mpr hw), trim]

/-- If neither part is blank, both ends of what is left are seen in the parts. -/
lemma trim_append_of_ne_nil (ha : trimStart a ≠ []) (hb : trimEnd b ≠ []) :
    trim (a ++ b) = trimStart a ++ trimEnd b := by
  rw [trim, trimStart_append, if_neg ha, trimEnd_append, if_neg hb]

/-- Trimming looks at nothing but which characters are blank. -/
lemma trimStart_map {f : Char → Char} (hf : ∀ c, isBlank (f c) = isBlank c) (cs : List Char) :
    trimStart (cs.map f) = (trimStart cs).map f := by
  simp [trimStart, List.dropWhile_map, Function.comp_def, hf]

lemma trimEnd_map {f : Char → Char} (hf : ∀ c, isBlank (f c) = isBlank c) (cs : List Char) :
    trimEnd (cs.map f) = (trimEnd cs).map f := by
  rw [trimEnd, ← List.map_reverse, ← trimStart, trimStart_map hf, ← List.map_reverse, trimEnd,
    trimStart]

lemma trim_map {f : Char → Char} (hf : ∀ c, isBlank (f c) = isBlank c) (cs : List Char) :
    trim (cs.map f) = (trim cs).map f := by
  rw [trim, trimStart_map hf, trimEnd_map hf, trim]

end SchemaGo.Text
