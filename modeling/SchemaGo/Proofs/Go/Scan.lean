import Mathlib
import SchemaGo.Go.Lexeme.Spell

/-!
Scanning composes. A lexeme whose end shows in what follows is read back as it is, so a text
put together from such lexemes has them as its lexemes.
-/

namespace SchemaGo.Go.Lexeme

open Text Unicode

/-- The characters that lexemes spell. -/
def chars (ts : List Lexeme) : List Char := ts.flatMap (·.text.toList)

@[simp] lemma chars_nil : chars [] = [] := rfl

@[simp] lemma chars_cons (t : Lexeme) (ts : List Lexeme) :
    chars (t :: ts) = t.text.toList ++ chars ts := by
  simp [chars]

@[simp] lemma chars_append (ts us : List Lexeme) : chars (ts ++ us) = chars ts ++ chars us := by
  simp [chars]

lemma toList_spell_eq_chars (ts : List Lexeme) : (spell ts).toList = chars ts := toList_spell ts

lemma spell_append (ts us : List Lexeme) : spell (ts ++ us) = spell ts ++ spell us := by
  apply String.toList_injective
  simp [toList_spell_eq_chars]

lemma spell_cons (t : Lexeme) (ts : List Lexeme) : spell (t :: ts) = t.text ++ spell ts := by
  apply String.toList_injective
  simp [toList_spell_eq_chars]

@[simp] lemma spell_nil : spell [] = "" := rfl

/-! ### As many lexemes as there are -/

lemma scanUpTo_eq_of_le {n m : ℕ} {cs : List Char} (hn : cs.length ≤ n) (hm : cs.length ≤ m) :
    scanUpTo n cs = scanUpTo m cs := by
  induction n generalizing m cs with
  | zero => simp [List.length_eq_zero_iff.1 (Nat.le_zero.1 hn), scanUpTo]
  | succ n ih =>
    cases cs with
    | nil => simp [scanUpTo]
    | cons c cs =>
      have hc := (cuts_scanOne c cs).2
      simp only [List.length_cons] at hn hm
      obtain ⟨m, rfl⟩ : ∃ k, m = k + 1 := ⟨m - 1, by omega⟩
      simp only [scanUpTo]
      exact congrArg _ (ih (by omega) (by omega))

/-- All lexemes of `cs`. -/
def scanAll (cs : List Char) : List Lexeme := scanUpTo cs.length cs

@[simp] lemma scanAll_nil : scanAll [] = [] := rfl

lemma scanAll_cons (c : Char) (cs : List Char) :
    scanAll (c :: cs) = (scanOne c cs).1 :: scanAll (scanOne c cs).2 := by
  have hc := (cuts_scanOne c cs).2
  unfold scanAll
  simp only [List.length_cons, scanUpTo]
  rw [scanUpTo_eq_of_le hc le_rfl]

lemma scan_eq_scanAll {s : String} (h : s.toList.head? ≠ some '\uFEFF') :
    scan s = scanAll s.toList := by
  unfold scan
  split
  · next hs => simp [hs]
  · next c cs hs =>
    rw [hs] at h ⊢
    rw [if_neg (by simpa using h)]
    rfl

/-! ### One lexeme -/

/-- In front of `cs` the text of `t` is read as `t`. -/
def Reads (t : Lexeme) (cs : List Char) : Prop :=
  ∃ c rest, t.text.toList = c :: rest ∧ scanOne c (rest ++ cs) = (t, cs)

lemma Reads.scanAll {t : Lexeme} {cs : List Char} (h : Reads t cs) :
    scanAll (t.text.toList ++ cs) = t :: scanAll cs := by
  obtain ⟨c, rest, ht, hs⟩ := h
  rw [ht, List.cons_append, scanAll_cons, hs]

/-- White space and comments. -/
def isTrivia : Lexeme → Bool
  | blank _ | comment _ | newline => true
  | _ => false

/-- White space within a line. -/
def isSpace (c : Char) : Bool := isBlank c && c != '\n'

lemma scanOne_of_isBlank {c : Char} (hc : isBlank c = true) (cs : List Char) :
    (scanOne c cs).1 = newline ∨ ∃ s, (scanOne c cs).1 = blank s := by
  unfold scanOne
  split
  · exact .inl rfl
  · exact .inr ⟨_, rfl⟩

/-- What is neither white space nor a line break does not begin with one. -/
lemma Reads.head_not_blank {t : Lexeme} {cs : List Char} (h : Reads t cs)
    (hb : ∀ s, t ≠ blank s) (hn : t ≠ newline) :
    ∃ c rest, t.text.toList = c :: rest ∧ isBlank c = false := by
  obtain ⟨c, rest, ht, hs⟩ := h
  refine ⟨c, rest, ht, ?_⟩
  by_contra hc
  rw [Bool.not_eq_false] at hc
  rcases scanOne_of_isBlank hc (rest ++ cs) with h | ⟨s, h⟩
  · exact hn (by rw [← h, hs])
  · exact hb s (by rw [← h, hs])

lemma Reads.isBlank_head {t : Lexeme} {cs : List Char} (h : Reads t cs)
    (hb : ∀ s, t ≠ blank s) (hn : t ≠ newline) (us : List Char) :
    ∀ c ∈ (t.text.toList ++ us).head?, isBlank c = false := by
  obtain ⟨d, rest, hd, hc⟩ := h.head_not_blank hb hn
  intro c hc'
  obtain rfl : d = c := by simpa [hd] using hc'
  exact hc

lemma splitOrMark_ne_blank {make : String → Lexeme} {s : String} (hm : ∀ u, make u ≠ blank s)
    (n : Option ℕ) (c : Char) (cs : List Char) : (splitOrMark make n c cs).1 ≠ blank s := by
  cases n <;> simp [splitOrMark, split, hm]

lemma isBlank_of_scanOne {c : Char} {cs : List Char} {s : String}
    (h : (scanOne c cs).1 = blank s) : isBlank c = true := by
  unfold scanOne at h
  split at h
  · simp at h
  split at h
  · assumption
  split at h
  · simp [split] at h
  split at h
  · exact absurd h (splitOrMark_ne_blank (by simp) _ _ _)
  · exact absurd h (splitOrMark_ne_blank (by simp) _ _ _)
  · exact absurd h (splitOrMark_ne_blank (by simp) _ _ _)
  · simp [split] at h
  · exact absurd h (splitOrMark_ne_blank (by simp) _ _ _)
  · split at h <;> simp [split] at h

/-- A blank that is read has no line break in it. -/
lemma Reads.noBreak {s : String} {cs : List Char} (h : Reads (blank s) cs) : '\n' ∉ s.toList := by
  obtain ⟨c, rest, ht, hs⟩ := h
  have hb : isBlank c = true := isBlank_of_scanOne (congrArg Prod.fst hs)
  unfold scanOne at hs
  split at hs
  · simp at hs
  · next hn =>
    simp only [split, Prod.mk.injEq, blank.injEq] at hs
    have hw := (List.prefix_iff_eq_take.mp
      (List.takeWhile_prefix (fun d => isBlank d && d != '\n') (l := rest ++ cs))).symm
    rw [← hs.1, String.toList_ofList, List.take_succ_cons, hw]
    intro hm
    rcases List.mem_cons.mp hm with hm | hm
    · exact hn (by simp [← hm])
    · simpa using List.mem_takeWhile_imp hm

/-! ### Many lexemes -/

/-- In front of `cs` the texts of `ts` are read as `ts`. -/
def ReadsAll : List Lexeme → List Char → Prop
  | [], _ => True
  | t :: ts, cs => Reads t (chars ts ++ cs) ∧ ReadsAll ts cs

@[simp] lemma readsAll_nil (cs : List Char) : ReadsAll [] cs := trivial

@[simp] lemma readsAll_cons (t : Lexeme) (ts : List Lexeme) (cs : List Char) :
    ReadsAll (t :: ts) cs ↔ Reads t (chars ts ++ cs) ∧ ReadsAll ts cs := Iff.rfl

lemma readsAll_append {ts us : List Lexeme} {cs : List Char} :
    ReadsAll (ts ++ us) cs ↔ ReadsAll ts (chars us ++ cs) ∧ ReadsAll us cs := by
  induction ts with
  | nil => simp
  | cons t ts ih => simp [ih, and_assoc]

lemma ReadsAll.isSpace_head {t : Lexeme} {ts : List Lexeme} {cs : List Char}
    (h : ReadsAll (t :: ts) cs) (ht : isTrivia t = false) (us : List Char) :
    ∀ c ∈ (chars (t :: ts) ++ us).head?, isSpace c = false := by
  intro c hc
  rw [chars_cons, List.append_assoc] at hc
  have hb := h.1.isBlank_head (by rintro s rfl; simp [isTrivia] at ht)
    (by rintro rfl; simp [isTrivia] at ht) _ c hc
  simp [isSpace, hb]

lemma ReadsAll.noBreak {ts : List Lexeme} {cs : List Char} (h : ReadsAll ts cs) {s : String}
    (hs : blank s ∈ ts) : '\n' ∉ s.toList := by
  induction ts with
  | nil => simp at hs
  | cons t ts ih =>
    rcases List.mem_cons.mp hs with rfl | hs
    · exact h.1.noBreak
    · exact ih h.2 hs

/-- **Scanning composes**: lexemes that are read back in front of `cs` are the first lexemes
of the text. -/
theorem scanAll_readsAll {ts : List Lexeme} {cs : List Char} (h : ReadsAll ts cs) :
    scanAll (chars ts ++ cs) = ts ++ scanAll cs := by
  induction ts with
  | nil => simp
  | cons t ts ih =>
    rw [chars_cons, List.append_assoc, h.1.scanAll, ih h.2]
    rfl

/-! ### The ends of blanks and words -/

lemma takeWhile_append_of_stop {α : Type*} {p : α → Bool} {xs ys : List α}
    (hx : ∀ x ∈ xs, p x = true) (hy : ∀ y ∈ ys.head?, p y = false) :
    (xs ++ ys).takeWhile p = xs := by
  rw [List.takeWhile_append_of_pos hx]
  cases ys with
  | nil => simp
  | cons y ys => simp [hy y (by simp)]

@[simp] lemma reads_newline (cs : List Char) : Reads newline cs :=
  ⟨'\n', [], rfl, rfl⟩

lemma reads_blank {s : String} {cs : List Char} (hne : s.toList ≠ [])
    (hs : ∀ c ∈ s.toList, isSpace c = true) (hcs : ∀ c ∈ cs.head?, isSpace c = false) :
    Reads (blank s) cs := by
  obtain ⟨c, rest, hr⟩ := List.exists_cons_of_ne_nil hne
  have hc : isBlank c = true ∧ c ≠ '\n' := by simpa [isSpace] using hs c (by simp [hr])
  have hw : (rest ++ cs).takeWhile (fun d => isBlank d && d != '\n') = rest :=
    takeWhile_append_of_stop (fun d hd => hs d (by simp [hr, hd])) hcs
  refine ⟨c, rest, hr, ?_⟩
  unfold scanOne
  rw [if_neg (by simpa using hc.2), if_pos hc.1, hw]
  simp [split, ← hr]

/-- White space does not begin an identifier. -/
lemma isIdentStart_of_isBlank {c : Char} (h : isBlank c = true) : isIdentStart c = false := by
  have key : ∀ n ∈ [9, 10, 11, 12, 13, 32, 0x85, 0xA0, 0x1680, 0x2000, 0x2001, 0x2002, 0x2003,
      0x2004, 0x2005, 0x2006, 0x2007, 0x2008, 0x2009, 0x200A, 0x2028, 0x2029, 0x202F, 0x205F,
      0x3000], isIdentStart (Char.ofNat n) = false := by decide +kernel
  rw [← Char.ofNat_toNat c]
  apply key
  simp only [isBlank, Bool.or_eq_true, Bool.and_eq_true, decide_eq_true_eq, beq_iff_eq] at h
  simp only [List.mem_cons, List.not_mem_nil, or_false]
  omega

/-- Whether the text is one word. -/
def isWord (s : String) : Bool :=
  match s.toList with
  | [] => false
  | c :: cs => isIdentStart c && cs.all isIdentPart

lemma isWord_eq_true {s : String} (h : isWord s = true) :
    ∃ c rest, s.toList = c :: rest ∧ isIdentStart c = true ∧
      ∀ d ∈ rest, isIdentPart d = true := by
  unfold isWord at h
  split at h
  · simp at h
  · next c rest hs =>
    rw [Bool.and_eq_true, List.all_eq_true] at h
    exact ⟨c, rest, hs, h⟩

lemma reads_word {s : String} {cs : List Char} (hs : isWord s = true)
    (hcs : ∀ c ∈ cs.head?, isIdentPart c = false) : Reads (word s) cs := by
  obtain ⟨c, rest, hr, hc, hrest⟩ := isWord_eq_true hs
  have hb : isBlank c = false := by
    by_contra hb
    simp [isIdentStart_of_isBlank (Bool.not_eq_false _ ▸ hb)] at hc
  have hn : c ≠ '\n' := by
    rintro rfl
    simp [isBlank] at hb
  refine ⟨c, rest, hr, ?_⟩
  unfold scanOne
  rw [if_neg (by simpa using hn), if_neg (by simp [hb]), if_pos hc,
    takeWhile_append_of_stop hrest hcs]
  simp [split, ← hr]

lemma isSpace_of_isIdentStart {c : Char} (hc : isIdentStart c = true) : isSpace c = false := by
  by_contra h
  have hb : isBlank c = true := by simp_all [isSpace]
  simp [isIdentStart_of_isBlank hb] at hc

lemma isSpace_of_isWord {s : String} (h : isWord s = true) (cs : List Char) :
    ∀ c ∈ (s.toList ++ cs).head?, isSpace c = false := by
  obtain ⟨d, rest, hs, hd, -⟩ := isWord_eq_true h
  intro c hc
  obtain rfl : d = c := by simpa [hs] using hc
  exact isSpace_of_isIdentStart hd

/-- The text is made of blanks and tabs. -/
def IsSpaces (s : String) : Prop := s.toList ≠ [] ∧ ∀ c ∈ s.toList, c = ' ' ∨ c = '\t'

lemma isSpaces_tab : IsSpaces "\t" := ⟨by simp, by simp⟩

lemma isSpaces_one : IsSpaces " " := ⟨by simp, by simp⟩

lemma IsSpaces.reads {s : String} (hs : IsSpaces s) {cs : List Char}
    (hcs : ∀ c ∈ cs.head?, isSpace c = false) : Reads (blank s) cs := by
  refine reads_blank hs.1 ?_ hcs
  intro c hc
  rcases hs.2 c hc with rfl | rfl <;> rfl

lemma IsSpaces.isIdentPart {s : String} (hs : IsSpaces s) (cs : List Char) :
    ∀ c ∈ (s.toList ++ cs).head?, isIdentPart c = false := by
  obtain ⟨d, rest, hd⟩ := List.exists_cons_of_ne_nil hs.1
  intro c hc
  obtain rfl : d = c := by simpa [hd] using hc
  rcases hs.2 d (by simp [hd]) with rfl | rfl <;> rfl

/-! ### Marks -/

lemma number_length_eq_zero {c : Char} (h : Number.isPart c = false) (cs : List Char) :
    Number.length (c :: cs) = 0 := by
  unfold Number.length
  rw [List.takeWhile_cons_of_neg (by simp [h])]
  rfl

/-- A character that is a lexeme wherever it stands. -/
def isPlainMark (c : Char) : Bool :=
  !isBlank c && !isIdentStart c && !Number.isPart c && c != '"' && c != '\x60' && c != '\'' &&
    c != '/'

lemma reads_mark {c : Char} (h : isPlainMark c = true) (cs : List Char) : Reads (mark c) cs := by
  simp only [isPlainMark, Bool.and_eq_true, Bool.not_eq_true', bne_iff_ne, ne_eq] at h
  obtain ⟨⟨⟨⟨⟨⟨hb, hi⟩, hp⟩, h1⟩, h2⟩, h3⟩, h4⟩ := h
  have hn : c ≠ '\n' := by
    rintro rfl
    simp [isBlank] at hb
  refine ⟨c, [], by simp [text], ?_⟩
  unfold scanOne
  rw [if_neg (by simpa using hn), if_neg (by simp [hb]), if_neg (by simp [hi])]
  split <;> simp_all [number_length_eq_zero hp]

lemma remainders_point {c : Char} (hc : c.isDigit = false) (cs : List Char) :
    Number.remainders ('.' :: c :: cs) = [] := by
  simp [Number.remainders, Number.integers, Number.decimalFloats, Number.hexFloats,
    Number.decimal, Number.digits, Number.zero, Number.point, hc, List.reduceOption]

lemma number_length_point {c : Char} (hc : c.isDigit = false) (cs : List Char) :
    Number.length ('.' :: c :: cs) = 0 := by
  unfold Number.length
  rw [List.takeWhile_cons_of_pos (by rfl)]
  by_cases hp : Number.isPart c = true
  · simp [List.takeWhile_cons_of_pos hp, remainders_point hc]
  · rw [List.takeWhile_cons_of_neg hp]
    rfl

/-- The point of a qualified name. -/
lemma reads_point {c : Char} (hc : c.isDigit = false) (cs : List Char) :
    Reads (mark '.') (c :: cs) := by
  refine ⟨'.', [], by rfl, ?_⟩
  have hb : isBlank '.' = false := by rfl
  have hi : isIdentStart '.' = false := by rfl
  unfold scanOne
  simp [hb, hi, number_length_point hc]

end SchemaGo.Go.Lexeme
