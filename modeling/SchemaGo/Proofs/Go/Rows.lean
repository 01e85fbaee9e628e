import Mathlib
import SchemaGo.Go.ColumnType
import SchemaGo.Proofs.Go.Outline
import SchemaGo.Proofs.Go.Reader

/-!
Reading the lines of generated declarations: the types of columns, the fields of a struct, and
rows of such lines up to a closing mark.
-/

namespace SchemaGo.Go

open Grammar Reader Lexeme

/-! ### Types -/

section Types

variable {d e : ℕ} {tail : Tail} {ts us : List Lexeme}

lemma type_eq {k : ℕ} (h : typeAt (upTo k) tail ts = some ((), us)) :
    type (upTo (k + 1)) tail ts = some ((), us) := by
  refine discard_eq (a := Reading.onlyType) ?_
  change (typeAt (upTo k) tail >>= _) _ = _
  rw [bind_eq h]
  rfl

/-- A word that stands for a type where one begins. -/
def isTypeName (s : String) : Bool := isWord s && !typeKeywords.contains s

/-- Nothing comes next that would belong to a type. -/
structure Ends (tail : Tail) (us : List Lexeme) : Prop where
  point : sees tail "." us = some (false, us)
  bracket : takes tail "[" us = some (false, us)

lemma Ends.typeNameRest (h : Ends tail us) (inner : Inner) :
    typeNameRest inner tail us = some ((), us) := by
  have hd : sees tail "..." us = some ((dropMarks "...".toList (upcoming tail us)).isSome, us) :=
    rfl
  rw [Grammar.typeNameRest, bind_eq h.point, bind_eq hd]
  simp only [Bool.false_and, Bool.false_eq_true, ite_false]
  rw [bind_eq h.bracket]
  rfl

lemma Ends.typeNameRest_point (h : Ends tail us) (inner : Inner) (w : String) :
    Grammar.typeNameRest inner tail (.mark '.' :: .word w :: us) = some ((), us) := by
  rw [Grammar.typeNameRest, bind_eq (show sees tail "." _ = some (true, _) from rfl),
    bind_eq (show sees tail "..." _ = some (false, _) from rfl)]
  simp only [Bool.not_false, Bool.and_self, ite_true]
  rw [bind_eq (show Reader.mark "." _ = some ((), .word w :: us) from rfl),
    bind_eq (discard_eq (show Reader.word (.word w :: us) = some (w, us) from rfl)),
    bind_eq h.bracket]
  rfl

/-- From a depth of `d` on, `ts` is read as a type, whatever stands behind it. -/
def RunsAsType (d : ℕ) (ts : List Lexeme) : Prop :=
  ∀ k tail us, Ends tail us → type (upTo (k + d)) tail (ts ++ us) = some ((), us)

namespace RunsAsType

lemma mono (h : RunsAsType d ts) (hd : d ≤ e) : RunsAsType e ts := by
  intro k tail us hus
  obtain ⟨n, rfl⟩ := Nat.exists_eq_add_of_le hd
  have hr := h (k + n) tail us hus
  rwa [Nat.add_assoc, Nat.add_comm n d] at hr

lemma pointer (h : RunsAsType d ts) : RunsAsType (d + 1) (.mark '*' :: ts) :=
  fun k tail us hus => type_eq (h k tail us hus)

lemma slice (h : RunsAsType d ts) : RunsAsType (d + 1) (.mark '[' :: .mark ']' :: ts) :=
  fun k tail us hus => type_eq (h k tail us hus)

/-- A name of a type, or the name of its package and what is behind it. -/
lemma word {w : String} (hw : w ∉ typeKeywords)
    (h : ∀ inner tail us, Ends tail us →
      typeNameRest inner tail (ts ++ us) = some ((), us)) : RunsAsType 1 (.word w :: ts) := by
  intro k tail us hus
  simp only [typeKeywords, List.mem_cons, not_or] at hw
  obtain ⟨h1, h2, h3, h4, h5, -⟩ := hw
  refine type_eq ?_
  rw [List.cons_append, typeAt,
    bind_eq (show advance (.word w :: (ts ++ us)) = some (.word w, ts ++ us) from rfl)]
  simp only [h _ _ _ hus]

end RunsAsType

end Types

/-! ### The types of columns -/

/-- The characters at which the types of fields and of parameters end. -/
def isStop (c : Char) : Prop := c = '\n' ∨ c = ',' ∨ c = ')'

lemma isStop.isIdentPart {c : Char} (hc : isStop c) (cs : List Char) :
    ∀ d ∈ (c :: cs).head?, Unicode.isIdentPart d = false := by
  rintro d ⟨rfl⟩
  rcases hc with rfl | rfl | rfl <;> rfl

/-- The lexemes of a type that is read back. -/
structure IsType (ts : List Lexeme) : Prop where
  first : (∃ rest, ts = .mark '[' :: .mark ']' :: rest ∧ RunsAsType 4 rest) ∨
    ∃ x rest, ts = x :: rest ∧ (x = .mark '*' ∨ ∃ w, x = .word w)
  runs : RunsAsType 4 ts
  reads : ∀ c cs, isStop c → ReadsAll ts (c :: cs)

lemma IsType.isSpace_head {ts : List Lexeme} (ht : IsType ts) (cs : List Char) :
    ∀ c ∈ (chars ts ++ cs).head?, isSpace c = false := by
  obtain ⟨x, rest, hx, hx'⟩ : ∃ x rest, ts = x :: rest ∧ isTrivia x = false := by
    rcases ht.first with ⟨rest, rfl, -⟩ | ⟨x, rest, rfl, rfl | ⟨w, rfl⟩⟩ <;> exact ⟨_, _, rfl, rfl⟩
  have hr := ht.reads '\n' [] (.inl rfl)
  rw [hx] at hr ⊢
  exact hr.isSpace_head hx' cs

namespace BaseType

/-- The type has a name that Go takes for one. -/
def legal : BaseType → Bool
  | scalar s | user s => isTypeName s
  | bytes | json | time => true

def lexemes : BaseType → List Lexeme
  | scalar s | user s => [.word s]
  | bytes => [.mark '[', .mark ']', .word "byte"]
  | json => [.word "json", .mark '.', .word "RawMessage"]
  | time => [.word "time", .mark '.', .word "Time"]

lemma spell_lexemes (b : BaseType) : spell b.lexemes = b.text := by
  cases b <;> simp [lexemes, spell_cons, BaseType.text, Lexeme.text]

end BaseType

lemma runsAsType_name {w : String} (hw : w ∉ typeKeywords) : RunsAsType 1 [.word w] :=
  .word hw fun inner _ _ hus => hus.typeNameRest inner

lemma runsAsType_qualified {p : String} (hp : p ∉ typeKeywords) (w : String) :
    RunsAsType 1 [.word p, .mark '.', .word w] :=
  .word hp fun inner _ _ hus => hus.typeNameRest_point inner w

lemma isType_name {w : String} (hw : isTypeName w = true) : IsType [.word w] := by
  obtain ⟨hword, hk⟩ := Bool.and_eq_true_iff.mp hw
  refine ⟨.inr ⟨_, _, rfl, .inr ⟨w, rfl⟩⟩, (runsAsType_name (by simpa using hk)).mono (by omega),
    fun c cs hc => ⟨reads_word hword (hc.isIdentPart cs), trivial⟩⟩

lemma isDigit_of_isIdentStart {c : Char} (h : Unicode.isIdentStart c = true) :
    c.isDigit = false := by
  rw [Bool.eq_false_iff]
  intro hd
  have hc : c.toNat < 128 := by
    simp only [Char.isDigit, Bool.and_eq_true, decide_eq_true_eq, UInt32.le_iff_toNat_le] at hd
    exact lt_of_le_of_lt hd.2 (by decide)
  rw [Unicode.isIdentStart, if_pos hc, Bool.or_eq_true, beq_iff_eq] at h
  rcases h with h | rfl
  · simp only [Char.isAlpha, Char.isUpper, Char.isLower, Char.isDigit, Bool.or_eq_true,
      Bool.and_eq_true, decide_eq_true_eq, UInt32.le_iff_toNat_le] at h hd
    simp at h hd
    omega
  · simp at hd

/-- A point in front of a word is read as one. -/
lemma reads_pointBefore {w : String} (hw : isWord w = true) (cs : List Char) :
    Reads (.mark '.') (w.toList ++ cs) := by
  obtain ⟨c, rest, hs, hc, -⟩ := isWord_eq_true hw
  rw [hs, List.cons_append]
  exact reads_point (isDigit_of_isIdentStart hc) _

lemma isType_qualified {p w : String} (hp : isTypeName p = true) (hw : isWord w = true) :
    IsType [.word p, .mark '.', .word w] := by
  obtain ⟨hword, hk⟩ := Bool.and_eq_true_iff.mp hp
  refine ⟨.inr ⟨_, _, rfl, .inr ⟨p, rfl⟩⟩,
    (runsAsType_qualified (by simpa using hk) w).mono (by omega), fun c cs hc => ?_⟩
  simp only [readsAll_cons, readsAll_nil, chars_cons, chars_nil, Lexeme.text, List.append_assoc,
    List.nil_append, and_true]
  refine ⟨reads_word hword ?_, reads_pointBefore hw _, reads_word hw (hc.isIdentPart cs)⟩
  rintro d ⟨rfl⟩
  rfl

/-- What stands in front of a type may make it one of pointers or slices. -/
lemma IsType.marked {base : List Lexeme} (hb : IsType base) (hr : RunsAsType 2 base)
    (pointer slice : Bool) :
    IsType ((if pointer then [.mark '*'] else []) ++
      ((if slice then [.mark '[', .mark ']'] else []) ++ base)) := by
  have hslice : IsType (.mark '[' :: .mark ']' :: base) :=
    ⟨.inl ⟨base, rfl, hr.mono (by omega)⟩, hr.slice.mono (by omega),
      fun c cs hc => ⟨reads_mark (by rfl) _, reads_mark (by rfl) _, hb.reads c cs hc⟩⟩
  have hpointer : ∀ {ts}, IsType ts → RunsAsType 3 ts → IsType (.mark '*' :: ts) :=
    fun ht h => ⟨.inr ⟨_, _, rfl, .inl rfl⟩, h.pointer,
      fun c cs hc => ⟨reads_mark (by rfl) _, ht.reads c cs hc⟩⟩
  cases pointer <;> cases slice
  · exact hb
  · exact hslice
  · exact hpointer hb (hr.mono (by omega))
  · exact hpointer hslice hr.slice

namespace BaseType

lemma isType_lexemes {b : BaseType} (hb : b.legal = true) :
    IsType b.lexemes ∧ RunsAsType 2 b.lexemes := by
  have hpoint : ∀ w, isTypeName w = true → IsType [.word w] ∧ RunsAsType 2 [.word w] :=
    fun w hw => ⟨isType_name hw, (runsAsType_name (by
      simpa using (Bool.and_eq_true_iff.mp hw).2)).mono (by omega)⟩
  cases b with
  | scalar s | user s => exact hpoint s hb
  | bytes =>
    obtain ⟨hbyte, hruns⟩ := hpoint "byte" (by decide)
    exact ⟨hbyte.marked hruns false true, (runsAsType_name (by decide)).slice⟩
  | json | time =>
    exact ⟨isType_qualified (by decide) (by decide),
      (runsAsType_qualified (by decide) _).mono (by omega)⟩

end BaseType

namespace ColumnType

/-- What stands in front of the base of the type, and `base`. -/
def marked (t : ColumnType) (base : List Lexeme) : List Lexeme :=
  (if t.pointer then [.mark '*'] else []) ++
    ((if t.slice then [.mark '[', .mark ']'] else []) ++ base)

def lexemes (t : ColumnType) : List Lexeme := t.marked t.base.lexemes

lemma spell_marked (t : ColumnType) (base : List Lexeme) :
    spell (t.marked base) = t.marks ++ spell base := by
  simp only [marked, spell_append, marks, ← String.append_assoc]
  congr 1
  split <;> split <;> rfl

lemma spell_lexemes (t : ColumnType) : spell t.lexemes = t.render := by
  rw [lexemes, spell_marked, t.base.spell_lexemes, render]

lemma isType_lexemes {t : ColumnType} (ht : t.base.legal = true) : IsType t.lexemes :=
  (BaseType.isType_lexemes ht).1.marked (BaseType.isType_lexemes ht).2 _ _

end ColumnType

/-! ### Fields -/

variable {lead : List Lexeme} (hl : ∀ t ∈ lead, isTrivia t = true) (n : String) (us : List Lexeme)

lemma ends_newline (us : List Lexeme) : Ends .line (.newline :: us) := ⟨rfl, rfl⟩

include hl in
lemma field_named {ts : List Lexeme} (ht : IsType ts) (p : String) (k : ℕ) :
    field (upTo (k + 4)) (lead ++ .word n :: .blank p :: (ts ++ .newline :: us)) =
      some ([n], .newline :: us) := by
  rw [field, bind_eq (takes_word hl n _ (by decide))]
  simp only [Bool.false_eq_true, ite_false]
  rw [bind_eq (get_eq _), bind_eq (word_trivia hl n _)]
  rcases ht.first with ⟨rest, rfl, hrest⟩ | ⟨x, rest, hts, hx⟩
  · -- the brackets of a slice might have been those of a generic type
    have hty := hrest k .line _ (ends_newline us)
    rw [bind_eq (show takes .line "," _ = some (false, _) from rfl)]
    simp only [Bool.false_eq_true, ite_false]
    rw [bind_eq (show sees .line "[" _ = some (true, _) from rfl)]
    simp only [ite_true]
    have hn : nameOrGeneric (upTo (k + 4)) .line
        (.blank p :: .mark '[' :: .mark ']' :: (rest ++ .newline :: us)) =
          some (true, .newline :: us) := by
      rw [nameOrGeneric,
        bind_eq (show brackets (upTo (k + 4)) _ = some (.empty, rest ++ .newline :: us) from rfl)]
      simp only [ite_true]
      rw [bind_eq hty]
      rfl
    refine (bind_eq hn).trans ?_
    rfl
  · obtain ⟨vs, hvs⟩ : ∃ vs, vs = .blank p :: (ts ++ .newline :: us) := ⟨_, rfl⟩
    obtain ⟨h₁, h₂, h₃, h₄⟩ : takes .line "," vs = some (false, vs) ∧
        sees .line "[" vs = some (false, vs) ∧ sees .line "." vs = some (false, vs) ∧
        seesType .line vs = some (true, vs) := by
      subst hvs hts
      rcases hx with rfl | ⟨w, rfl⟩ <;> exact ⟨rfl, rfl, rfl, rfl⟩
    have hr : type (upTo (k + 4)) .line vs = some ((), .newline :: us) := by
      have hty := ht.runs k .line _ (ends_newline us)
      subst hvs
      exact hty
    rw [← hvs, bind_eq h₁]
    simp only [Bool.false_eq_true, ite_false]
    rw [bind_eq h₂]
    simp only [Bool.false_eq_true, ite_false]
    rw [bind_eq h₃]
    simp only [Bool.false_eq_true, ite_false]
    rw [bind_eq h₄]
    simp only [ite_true]
    rw [bind_eq hr]
    rfl

include hl in
lemma field_embedded (inner : Inner) :
    field inner (lead ++ .word n :: .newline :: us) = some ([n], .newline :: us) := by
  rw [field, bind_eq (takes_word hl n _ (by decide))]
  simp only [Bool.false_eq_true, ite_false]
  rw [bind_eq (get_eq _), bind_eq (word_trivia hl n _)]
  rfl

/-! ### Rows -/

/-- The lexemes of a row that `r` reads as `a`, on a line of its own. -/
structure IsRow {α : Type} (c : Char) (r : ℕ → Reader α) (line : String) (a : α)
    (ts : List Lexeme) : Prop where
  spells : spell (ts ++ [.newline]) = line
  reads : ∀ cs, ReadsAll ts ('\n' :: cs)
  row : ∀ k us lead, (∀ t ∈ lead, isTrivia t = true) →
    sees .closed (String.singleton c) (lead ++ (ts ++ .newline :: us)) =
      some (false, lead ++ (ts ++ .newline :: us)) ∧
    r k (lead ++ (ts ++ .newline :: us)) = some (a, .newline :: us)

section Rows

variable {α β : Type} {c : Char} {r : ℕ → Reader α} {line : β → String} {val : β → α}
  {row : β → List Lexeme} {xs : List β} (h : ∀ x ∈ xs, IsRow c r (line x) (val x) (row x))

/-- The lexemes of lines. -/
def rowLexemes (row : β → List Lexeme) (xs : List β) : List Lexeme :=
  xs.flatMap fun x => row x ++ [.newline]

include h

lemma spell_rowLexemes : spell (rowLexemes row xs) = String.join (xs.map line) := by
  induction xs with
  | nil => rfl
  | cons x xs ih =>
    have ih := ih fun y hy => h y (by simp [hy])
    rw [rowLexemes] at ih ⊢
    rw [List.flatMap_cons, spell_append, ih, (h x (by simp)).spells, List.map_cons,
      String.join_cons]

lemma reads_rowLexemes (cs : List Char) : ReadsAll (rowLexemes row xs) cs := by
  induction xs with
  | nil => trivial
  | cons x xs ih =>
    rw [rowLexemes, List.flatMap_cons, List.append_assoc, readsAll_append]
    exact ⟨(h x (by simp)).reads _, reads_newline _, ih fun y hy => h y (by simp [hy])⟩

lemma rows_rowLexemes (k : ℕ) (us lead : List Lexeme)
    (hl : ∀ t ∈ lead, isTrivia t = true) :
    ∃ lead', (∀ t ∈ lead', isTrivia t = true) ∧
      Rows (String.singleton c) (r k) (lead ++ (rowLexemes row xs ++ .mark c :: us))
        (xs.map val) (lead' ++ .mark c :: us) := by
  induction xs generalizing lead with
  | nil =>
    have hu : upcoming .closed (lead ++ .mark c :: us) = .mark c :: us := by
      rw [upcoming_trivia hl]
      rfl
    exact ⟨lead, hl, .close (by simp [rowLexemes, sees, hu, dropMarks])⟩
  | cons x xs ih =>
    obtain ⟨lead', hl', hrows⟩ := ih (fun y hy => h y (by simp [hy])) [] (by simp)
    obtain ⟨h₁, h₂⟩ := (h x (by simp)).row k (rowLexemes row xs ++ .mark c :: us) lead hl
    refine ⟨lead', hl', ?_⟩
    rw [rowLexemes, List.flatMap_cons, List.append_assoc, List.append_assoc]
    exact .row h₁ h₂ rfl hrows

omit h in
lemma length_le_rowLexemes : xs.length ≤ (rowLexemes row xs).length := by
  induction xs with
  | nil => simp
  | cons x xs ih =>
    rw [rowLexemes] at ih ⊢
    simp only [List.flatMap_cons, List.length_append, List.length_cons, List.length_nil]
    omega

end Rows

end SchemaGo.Go
