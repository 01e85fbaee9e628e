import Mathlib
import SchemaGo.Naming
import SchemaGo.Unicode.Identifier

/-!
The characters of the names that are made from words: a name begins with the first letter or digit
of the text, an ASCII text gives ASCII letters and digits, and no text gives another character of
ASCII.
-/

namespace SchemaGo.Naming

open Unicode

variable {c : Char} {cs w : List Char} {s : String}

/-! ### Words -/

lemma flatten_splitOnP {α : Type} (p : α → Bool) (l : List α) :
    (l.splitOnP p).flatten = l.filter fun a => !p a := by
  induction l with
  | nil => rfl
  | cons a l ih =>
    obtain ⟨x, xs, hx⟩ := List.exists_cons_of_ne_nil (List.splitOnP_ne_nil p l)
    rw [List.splitOnP_cons_eq_if_modifyHead]
    rw [hx] at ih ⊢
    by_cases ha : p a = true
    · simpa [ha] using ih
    · simpa [ha] using ih

lemma flatten_wordsOfRun (k : Case) (word cs : List Char) :
    (wordsOfRun k word cs).flatten = word.reverse ++ cs := by
  fun_induction wordsOfRun k word cs <;> simp_all

/-- The words are made of all letters and digits, in order. -/
lemma flatten_words (s : String) : (words s).flatten = s.toList.filter isAlphanumeric := by
  have h : ∀ rs : List (List Char), (rs.flatMap (wordsOfRun .unknown [])).flatten = rs.flatten := by
    intro rs
    induction rs with
    | nil => rfl
    | cons r rs ih =>
      rw [List.flatMap_cons, List.flatten_append, ih, flatten_wordsOfRun, List.flatten_cons]
      rfl
  rw [words, h, runs, flatten_splitOnP]
  simp

lemma isAlphanumeric_of_mem_words (hw : w ∈ words s) (hc : c ∈ w) :
    c ∈ s.toList ∧ isAlphanumeric c = true := by
  have h : c ∈ (words s).flatten := List.mem_flatten.mpr ⟨w, hw, hc⟩
  rw [flatten_words] at h
  exact List.mem_filter.mp h

lemma nil_not_mem_wordsOfRun {k : Case} (hk : k = .upper → w ≠ []) :
    [] ∉ wordsOfRun k w cs := by
  fun_induction wordsOfRun k w cs with
  | case1 k w hw => simp
  | case2 k w hw => simpa using hw
  | case3 k w c => simp
  | case4 k w c d cs hsplit ih =>
    rw [List.mem_cons, not_or]
    exact ⟨by simp, ih (by simp)⟩
  | case5 k w c d cs hlower hsplit ih =>
    have hupper : k = .upper := by
      simp only [Bool.and_eq_true, decide_eq_true_eq] at hsplit
      exact hsplit.1.1
    rw [List.mem_cons, not_or]
    exact ⟨by simpa using (hk hupper).symm, ih (by simp)⟩
  | case6 k w c d cs hlower hupper ih => exact ih (by simp)

lemma ne_nil_of_mem_words (hw : w ∈ words s) : w ≠ [] := by
  rintro rfl
  obtain ⟨r, -, hr⟩ := List.mem_flatMap.mp hw
  exact nil_not_mem_wordsOfRun (by simp) hr

/-- The first word begins with the first letter or digit. -/
lemma exists_words_eq_cons (h : s.toList.find? isAlphanumeric = some c) :
    ∃ w ws, words s = (c :: w) :: ws := by
  have hhead : (words s).flatten.head? = some c := by rw [flatten_words, List.head?_filter, h]
  rcases hws : words s with _ | ⟨w, ws⟩
  · simp [hws] at hhead
  · have hw : w ∈ words s := by simp [hws]
    obtain ⟨d, w, rfl⟩ := List.exists_cons_of_ne_nil (ne_nil_of_mem_words hw)
    obtain rfl : d = c := by simpa [hws] using hhead
    exact ⟨w, ws, rfl⟩

lemma words_eq_nil (h : s.toList.find? isAlphanumeric = none) : words s = [] := by
  rcases hws : words s with _ | ⟨w, ws⟩
  · rfl
  · have hw : w ∈ words s := by simp [hws]
    obtain ⟨c, w, rfl⟩ := List.exists_cons_of_ne_nil (ne_nil_of_mem_words hw)
    obtain ⟨hmem, hc⟩ := isAlphanumeric_of_mem_words hw (c := c) (by simp)
    exact absurd hc (List.find?_eq_none.mp h c hmem)

/-! ### ASCII -/

def isAscii (c : Char) : Bool := c.toNat < 128

/-- What holds of all ASCII characters can be looked up. -/
lemma forall_ascii {p : Char → Bool} (h : ∀ n < 128, p (Char.ofNat n) = true)
    (hc : isAscii c = true) : p c = true := by
  have h := h c.toNat (by simpa [isAscii] using hc)
  rwa [Char.ofNat_toNat] at h

lemma isAscii_of_isAlphanum (h : c.isAlphanum = true) : isAscii c = true := by
  simp only [Char.isAlphanum, Char.isAlpha, Char.isUpper, Char.isLower, Char.isDigit,
    Bool.or_eq_true, Bool.and_eq_true, decide_eq_true_eq, UInt32.le_iff_toNat_le] at h
  have hn : c.toNat = c.val.toNat := rfl
  simp only [isAscii, decide_eq_true_eq, hn]
  simp at h
  omega

lemma isIdentStart_of_isAlpha (h : c.isAlpha = true) : Unicode.isIdentStart c = true := by
  have ha := isAscii_of_isAlphanum (c := c) (by simp [Char.isAlphanum, h])
  rw [Unicode.isIdentStart, if_pos (by simpa [isAscii] using ha), h, Bool.true_or]

lemma isIdentPart_of_isAlphanum (h : c.isAlphanum = true) : Unicode.isIdentPart c = true := by
  have ha := isAscii_of_isAlphanum h
  rw [Unicode.isIdentPart, if_pos (by simpa [isAscii] using ha), h, Bool.true_or]

lemma isAlphanum_of_isAlphanumeric (hc : isAscii c = true) (ha : isAlphanumeric c = true) :
    c.isAlphanum = true := by
  rwa [isAlphanumeric, if_pos (by simpa [isAscii] using hc)] at ha

lemma toLower_alphanum (hc : c.isAlphanum = true) : ∀ d ∈ toLower c, d.isAlphanum = true := by
  have ha := isAscii_of_isAlphanum hc
  have h := forall_ascii (p := fun c => !c.isAlphanum || c.toLower.isAlphanum)
    (by decide) ha
  rw [toLower, if_pos (by simpa [isAscii] using ha)]
  simpa [hc] using h

lemma toUpper_alphanum (hc : c.isAlphanum = true) : ∀ d ∈ toUpper c, d.isAlphanum = true := by
  have ha := isAscii_of_isAlphanum hc
  have h := forall_ascii (p := fun c => !c.isAlphanum || c.toUpper.isAlphanum)
    (by decide) ha
  rw [toUpper, if_pos (by simpa [isAscii] using ha)]
  simpa [hc] using h

lemma lowerWord_alphanum (hw : ∀ c ∈ w, c.isAlphanum = true) :
    ∀ c ∈ lowerWord w, c.isAlphanum = true := by
  fun_induction lowerWord w with
  | case1 => simp
  | case2 => exact absurd (hw 'Σ' (by simp)) (by decide)
  | case3 c cs hsigma ih =>
    intro d hd
    rcases List.mem_append.mp hd with hd | hd
    · exact toLower_alphanum (hw c (by simp)) d hd
    · exact ih (fun x hx => hw x (by simp [hx])) d hd

lemma capitalized_alphanum (hw : ∀ c ∈ w, c.isAlphanum = true) :
    ∀ c ∈ capitalized w, c.isAlphanum = true := by
  cases w with
  | nil => simp [capitalized]
  | cons c cs =>
    intro d hd
    rcases List.mem_append.mp hd with hd | hd
    · exact toUpper_alphanum (hw c (by simp)) d hd
    · exact lowerWord_alphanum (fun x hx => hw x (by simp [hx])) d hd

/-- Names in Pascal case made from ASCII text are ASCII letters and digits. -/
lemma pascalCase_alphanum (hs : s.toList.all isAscii = true) :
    ∀ c ∈ (pascalCase s).toList, c.isAlphanum = true := by
  intro c hc
  rw [pascalCase, String.toList_ofList] at hc
  obtain ⟨w, hw, hc⟩ := List.mem_flatMap.mp hc
  refine capitalized_alphanum (fun d hd => ?_) c hc
  obtain ⟨hmem, ha⟩ := isAlphanumeric_of_mem_words hw hd
  exact isAlphanum_of_isAlphanumeric (List.all_eq_true.mp hs d hmem) ha

/-! ### First characters -/

lemma lowerWord_cons (hc : isAscii c = true) (cs : List Char) :
    lowerWord (c :: cs) = c.toLower :: lowerWord cs := by
  have hlt : c.toNat < 128 := by simpa [isAscii] using hc
  have hsigma : c ≠ 'Σ' := by
    rintro rfl
    exact absurd hlt (by decide)
  rw [lowerWord, toLower, if_pos hlt]
  · rfl
  · simp [hsigma]

lemma capitalized_cons (hc : isAscii c = true) (cs : List Char) :
    capitalized (c :: cs) = c.toUpper :: lowerWord cs := by
  rw [capitalized, toUpper, if_pos (by simpa [isAscii] using hc)]
  rfl

/-- A name begins with the first letter or digit, and in Pascal case and camel case it differs there
alone. -/
lemma exists_cased_eq_cons (h : s.toList.find? isAlphanumeric = some c) (hc : isAscii c = true) :
    ∃ ds, (pascalCase s).toList = c.toUpper :: ds ∧ (camelCase s).toList = c.toLower :: ds := by
  obtain ⟨w, ws, hws⟩ := exists_words_eq_cons h
  refine ⟨lowerWord w ++ ws.flatMap capitalized, ?_, ?_⟩
  · simp [pascalCase, hws, capitalized_cons hc]
  · simp [camelCase, hws, lowerWord_cons hc]

/-- Without letters and digits there is no name. -/
lemma cased_eq_empty (h : s.toList.find? isAlphanumeric = none) :
    pascalCase s = "" ∧ camelCase s = "" := by
  simp [pascalCase, camelCase, words_eq_nil h]

/-- What begins with an ASCII letter or digit has it for the first of them. -/
lemma find?_isAlphanumeric (hs : s.toList = c :: cs) (ha : c.isAlphanum = true) :
    s.toList.find? isAlphanumeric = some c := by
  have hal : isAlphanumeric c = true := by
    rw [isAlphanumeric, if_pos (by simpa [isAscii] using isAscii_of_isAlphanum ha)]
    exact ha
  rw [hs, List.find?_cons_of_pos hal]

/-! ### Any text -/

/-- What names are made of: ASCII letters and digits, and characters beyond ASCII. -/
def isNameChar (c : Char) : Bool := c.isAlphanum || !isAscii c

lemma isNameChar_of_isAlphanum (h : c.isAlphanum = true) : isNameChar c = true := by
  rw [isNameChar, h, Bool.true_or]

/-- The run moves no character to one of ASCII without the property, nor to what is no character. -/
def keeps (p : Char → Bool) (r : Run) : Bool :=
  (r.first == r.last && p (Char.ofNat (r.first + r.shift).toNat)) ||
    decide (128 ≤ r.first + r.shift ∧
      (r.last + r.shift < 0xD800 ∨ 0xE000 ≤ r.first + r.shift ∧ r.last + r.shift < 0x110000))

lemma isAscii_ofNat {n : ℕ} (hn : 128 ≤ n) (hv : n.isValidChar) :
    isAscii (Char.ofNat n) = false := by
  have h : (Char.ofNat n).toNat = n := by
    rw [Char.ofNat, dif_pos hv]
    rfl
  simpa [isAscii, h] using hn

section

variable {p : Char → Bool} (hp : ∀ c, isAscii c = false → p c = true)
include hp

lemma of_keeps {r : Run} {n : ℕ} (hr : keeps p r = true) (hn : r.covers n = true) :
    p (Char.ofNat (n + r.shift).toNat) = true := by
  simp only [Run.covers, Bool.and_eq_true, decide_eq_true_eq] at hn
  simp only [keeps, Bool.or_eq_true, Bool.and_eq_true, beq_iff_eq, decide_eq_true_eq] at hr
  rcases hr with ⟨hone, hr⟩ | ⟨hlow, hvalid⟩
  · obtain rfl : n = r.first := by omega
    exact hr
  · refine hp _ (isAscii_ofNat (by omega) ?_)
    rcases hvalid with hvalid | ⟨hlow, hhigh⟩
    · exact .inl (by omega)
    · exact .inr (by omega)

/-- What all characters beyond ASCII have in common, they keep under a map whose tables do. -/
lemma apply_all {m : CharMap} (ht : m.texts.all (fun e => e.2.all p) = true)
    (hr : m.runs.all (keeps p) = true) (hc : isAscii c = false) : ∀ d ∈ m.apply c, p d = true := by
  intro d hd
  unfold CharMap.apply at hd
  split at hd
  · next n ds hfind =>
    exact List.all_eq_true.mp (List.all_eq_true.mp ht _ (List.mem_of_find?_eq_some hfind)) d hd
  · split at hd
    · next r hfind =>
      obtain rfl := List.mem_singleton.mp hd
      have hcovers : r.covers c.toNat = true := by simpa using List.find?_some hfind
      exact of_keeps hp (List.all_eq_true.mp hr r (List.mem_of_find?_eq_some hfind)) hcovers
    · obtain rfl := List.mem_singleton.mp hd
      exact hp _ hc

end

lemma isNameChar_of_not_ascii (h : isAscii c = false) : isNameChar c = true := by
  rw [isNameChar, h, Bool.not_false, Bool.or_true]

/-- Lower case makes no mark of ASCII of what lies beyond it. -/
lemma toLower_nameChar_of_not_ascii (hc : isAscii c = false) :
    ∀ d ∈ toLower c, isNameChar d = true := by
  have hlt : ¬ c.toNat < 128 := by simpa [isAscii] using hc
  rw [toLower, if_neg hlt]
  exact apply_all (fun _ => isNameChar_of_not_ascii) (by decide) (by decide) hc

lemma toLower_nameChar (hc : isAlphanumeric c = true) : ∀ d ∈ toLower c, isNameChar d = true := by
  by_cases ha : isAscii c = true
  · have hp := isAlphanum_of_isAlphanumeric ha hc
    exact fun d hd => isNameChar_of_isAlphanum (toLower_alphanum hp d hd)
  · exact toLower_nameChar_of_not_ascii (by simpa using ha)

lemma toUpper_nameChar (hc : isAlphanumeric c = true) : ∀ d ∈ toUpper c, isNameChar d = true := by
  by_cases ha : isAscii c = true
  · have hp := isAlphanum_of_isAlphanumeric ha hc
    exact fun d hd => isNameChar_of_isAlphanum (toUpper_alphanum hp d hd)
  · have hlt : ¬ c.toNat < 128 := by simpa [isAscii] using ha
    rw [toUpper, if_neg hlt]
    exact apply_all (fun _ => isNameChar_of_not_ascii) (by decide) (by decide)
      (by simpa using ha)

lemma lowerWord_nameChar (hw : ∀ c ∈ w, isAlphanumeric c = true) :
    ∀ c ∈ lowerWord w, isNameChar c = true := by
  fun_induction lowerWord w with
  | case1 => simp
  | case2 =>
    intro d hd
    obtain rfl := List.mem_singleton.mp hd
    rfl
  | case3 c cs hsigma ih =>
    intro d hd
    rcases List.mem_append.mp hd with hd | hd
    · exact toLower_nameChar (hw c (by simp)) d hd
    · exact ih (fun x hx => hw x (by simp [hx])) d hd

lemma capitalized_nameChar (hw : ∀ c ∈ w, isAlphanumeric c = true) :
    ∀ c ∈ capitalized w, isNameChar c = true := by
  cases w with
  | nil => simp [capitalized]
  | cons c cs =>
    intro d hd
    rcases List.mem_append.mp hd with hd | hd
    · exact toUpper_nameChar (hw c (by simp)) d hd
    · exact lowerWord_nameChar (fun x hx => hw x (by simp [hx])) d hd

/-- No name in Pascal case has a mark of ASCII in it. -/
lemma pascalCase_nameChar (s : String) : ∀ c ∈ (pascalCase s).toList, isNameChar c = true := by
  intro c hc
  rw [pascalCase, String.toList_ofList] at hc
  obtain ⟨w, hw, hc⟩ := List.mem_flatMap.mp hc
  exact capitalized_nameChar (fun d hd => (isAlphanumeric_of_mem_words hw hd).2) c hc

/-! ### Names of files -/

/-- The character has a place in the name of a file. -/
def isSafe (c : Char) : Bool := c != '/' && c != '.'

lemma isSafe_of_isNameChar (h : isNameChar c = true) : isSafe c = true := by
  simp only [isSafe, Bool.and_eq_true, bne_iff_ne]
  constructor <;> rintro rfl <;> exact absurd h (by decide)

lemma mem_intercalate {α : Type} {sep : List α} {ls : List (List α)} {a : α}
    (h : a ∈ List.intercalate sep ls) : a ∈ sep ∨ ∃ l ∈ ls, a ∈ l := by
  obtain ⟨l, hl, ha⟩ := List.mem_flatten.mp h
  induction ls with
  | nil => simp at hl
  | cons x ls ih =>
    cases ls with
    | nil => exact .inr ⟨x, by simp, by simp_all⟩
    | cons y ls =>
      rw [List.intersperse_cons_cons] at hl
      rcases List.mem_cons.mp hl with rfl | hl
      · exact .inr ⟨l, by simp, ha⟩
      rcases List.mem_cons.mp hl with rfl | hl
      · exact .inl ha
      rcases ih (List.mem_flatten.mpr ⟨l, hl, ha⟩) hl with hs | ⟨z, hz, ha⟩
      · exact .inl hs
      · exact .inr ⟨z, by simp [hz], ha⟩

/-- No name in snake case has a mark of ASCII in it but the one between its words. -/
lemma snakeCase_nameChar (s : String) :
    ∀ c ∈ (snakeCase s).toList, c = '_' ∨ isNameChar c = true := by
  intro c hc
  rw [snakeCase, String.toList_ofList] at hc
  rcases mem_intercalate hc with hc | ⟨l, hl, hc⟩
  · exact .inl (List.mem_singleton.mp hc)
  · obtain ⟨w, hw, rfl⟩ := List.mem_map.mp hl
    exact .inr (lowerWord_nameChar (fun d hd => (isAlphanumeric_of_mem_words hw hd).2) c hc)

/-- No name in snake case has a slash or a dot. -/
lemma snakeCase_safe (s : String) : ∀ c ∈ (snakeCase s).toList, isSafe c = true := by
  intro c hc
  rcases snakeCase_nameChar s c hc with rfl | hc
  · rfl
  · exact isSafe_of_isNameChar hc

end SchemaGo.Naming
