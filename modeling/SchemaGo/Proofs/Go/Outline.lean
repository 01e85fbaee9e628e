import Mathlib
import SchemaGo.Go.File.Read
import SchemaGo.Proofs.Go.Scan

/-!
Outlines compose. What a part of a source adds to the file that is read is told by the state of
the reader before it and after it, whatever stands on the lines below.
-/

namespace SchemaGo.Go

open Grammar Lexeme

variable {inner : Inner} {due : Due} {ts us : List Lexeme} {ps qs : List Piece}

/-! ### Outlines -/

/-- In `ts.length` steps, or in more, `ts` has the outline `ps`. -/
def Outlines (inner : Inner) (due : Due) (ts : List Lexeme) (ps : List Piece) : Prop :=
  ∀ n, ts.length ≤ n → outlineFrom inner n due ts = some ps

lemma outlines_nil (h : due ≠ .terminator) : Outlines inner due [] [] := by
  intro n _
  cases n <;> simp [outlineFrom, h]

lemma Outlines.blank (s : String) (h : Outlines inner due ts ps) :
    Outlines inner due (.blank s :: ts) (.gap s :: ps) := by
  intro n hn
  obtain ⟨n, rfl⟩ : ∃ k, n = k + 1 := ⟨n - 1, by simp at hn; omega⟩
  simp [outlineFrom, h n (by simpa using hn)]

lemma Outlines.comment (s : String) (h : Outlines inner due ts ps) :
    Outlines inner due (.comment s :: ts) (.comment s :: ps) := by
  intro n hn
  obtain ⟨n, rfl⟩ : ∃ k, n = k + 1 := ⟨n - 1, by simp at hn; omega⟩
  simp [outlineFrom, h n (by simpa using hn)]

lemma Outlines.newline (h : Outlines inner .item ts ps) :
    Outlines inner due (.newline :: ts) (.gap "\n" :: ps) := by
  intro n hn
  obtain ⟨n, rfl⟩ : ∃ k, n = k + 1 := ⟨n - 1, by simp at hn; omega⟩
  simp [outlineFrom, h n (by simpa using hn)]

/-- The marks that end an item. -/
def isTerminator (t : Lexeme) : Bool := t == .mark ';' || t == .mark '\x00'

lemma Outlines.terminator {t : Lexeme} (ht : isTerminator t = true) (hd : due ≠ .item)
    (h : Outlines inner .item ts ps) : Outlines inner due (t :: ts) (.gap t.text :: ps) := by
  intro n hn
  obtain ⟨n, rfl⟩ : ∃ k, n = k + 1 := ⟨n - 1, by simp at hn; omega⟩
  have hr := h n (by simpa using hn)
  simp only [isTerminator, Bool.or_eq_true, beq_iff_eq] at ht
  rcases ht with rfl | rfl <;> simp [outlineFrom, hr, hd]

lemma Outlines.item {i : Item} {last : Bool} {t : Lexeme} (ht : isTrivia t = false)
    (hi : item inner (t :: ts ++ us) = some ((i, last), us))
    (h : Outlines inner (if last then .terminatorOrEnd else .terminator) us ps) :
    Outlines inner .item (t :: ts ++ us) (.item (spell (t :: ts)) i :: ps) := by
  intro n hn
  obtain ⟨n, rfl⟩ : ∃ k, n = k + 1 := ⟨n - 1, by simp at hn; omega⟩
  have hl : us.length ≤ n := by
    simp only [List.cons_append, List.length_cons, List.length_append] at hn
    omega
  have htake : (t :: (ts ++ us)).take ((t :: (ts ++ us)).length - us.length) = t :: ts := by
    rw [show (t :: (ts ++ us)).length - us.length = (t :: ts).length by simp; omega]
    exact List.take_left' rfl
  rw [List.cons_append] at hi ⊢
  cases t <;> simp_all [outlineFrom, isTrivia, h n hl]

/-! ### Trivia -/

/-- The piece of an outline that is no item. -/
def piece : Lexeme → Piece
  | .comment s => .comment s
  | t => .gap t.text

lemma Outlines.trivia (hts : ∀ t ∈ ts, isTrivia t = true) (h : Outlines inner .item us qs) :
    Outlines inner .item (ts ++ us) (ts.map piece ++ qs) := by
  induction ts with
  | nil => exact h
  | cons t ts ih =>
    have ih := ih fun u hu => hts u (by simp [hu])
    have ht := hts t (by simp)
    cases t with
    | blank s => exact ih.blank s
    | comment s => exact ih.comment s
    | newline => exact ih.newline
    | word _ | number _ | string _ | rune _ | mark _ => simp [isTrivia] at ht

/-- What may follow an item on its line: blanks, comments and a terminator, a comment last. -/
structure Beside (ts : List Lexeme) : Prop where
  kinds : ∀ t ∈ ts, t ≠ .newline ∧ (isTrivia t = true ∨ isTerminator t = true)
  terminators : ts.countP isTerminator ≤ 1
  last : ∀ t ∈ ts.getLast?, ∃ s, t = .comment s

lemma outlines_line (hts : ∀ t ∈ ts, t ≠ .newline ∧ (isTrivia t = true ∨ isTerminator t = true))
    (hn : ts.countP isTerminator ≤ if due = .item then 0 else 1)
    (h : Outlines inner .item us qs) :
    Outlines inner due (ts ++ .newline :: us) (ts.map piece ++ .gap "\n" :: qs) := by
  induction ts generalizing due with
  | nil => exact h.newline
  | cons t ts ih =>
    obtain ⟨hl, hk⟩ := hts t (by simp)
    have hrest := fun u hu => hts u (List.mem_cons_of_mem t hu)
    by_cases ht : isTerminator t = true
    · have hd : due ≠ .item := by
        rintro rfl
        simp [ht] at hn
      rw [List.countP_cons_of_pos ht, if_neg hd] at hn
      have hp : piece t = .gap t.text := by
        simp only [isTerminator, Bool.or_eq_true, beq_iff_eq] at ht
        rcases ht with rfl | rfl <;> rfl
      rw [List.map_cons, hp]
      exact (ih hrest (by simpa using hn)).terminator ht hd
    · rw [List.countP_cons_of_neg ht] at hn
      have ih := ih hrest hn
      rcases hk with hk | hk
      · cases t with
        | blank s => exact ih.blank s
        | comment s => exact ih.comment s
        | newline => exact absurd rfl hl
        | word _ | number _ | string _ | rune _ | mark _ => simp [isTrivia] at hk
      · exact absurd hk ht

lemma Beside.outlines (hb : Beside ts) (hd : due ≠ .item) (h : Outlines inner .item us qs) :
    Outlines inner due (ts ++ .newline :: us) (ts.map piece ++ .gap "\n" :: qs) :=
  outlines_line hb.kinds (by simpa [hd] using hb.terminators) h

lemma beside_nil : Beside [] := ⟨by simp, by simp, by simp⟩

/-- On lines of its own, `body` is read as a declaration of `shape`, whatever stands on the
lines below. -/
def ReadsAs (body : String) (shape : Shape) (qualifiers : List String) : Prop :=
  ∃ t its beside last, isTrivia t = false ∧ body = spell (t :: its ++ beside) ∧ Beside beside ∧
    (∀ cs, ReadsAll (t :: its ++ beside) ('\n' :: cs)) ∧
    ∀ D us, (t :: its).length < D →
      item (upTo D) (t :: its ++ (beside ++ .newline :: us)) =
        some ((.decl shape qualifiers, last), beside ++ .newline :: us)

end SchemaGo.Go
