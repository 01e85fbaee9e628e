import Mathlib
import SchemaGo.Go.Outline
import SchemaGo.Proofs.Go.Scan

/-!
Running readers step by step. A reader that has been run on the front of a list of lexemes is
replaced by its value and what it leaves over; a repetition is run row by row.
-/

namespace SchemaGo.Go.Grammar

open Reader

variable {α β : Type} {ts us vs : List Lexeme} {a : α}

/-- The next lexeme that counts, and what is behind it, are an end of the lexemes. -/
lemma next_suffix {tail : Tail} {t : Lexeme} (h : next tail ts = some (t, us)) :
    t :: us <:+ ts := by
  fun_induction next tail ts with
  | case1 => simp at h
  | case2 _ _ ih | case3 _ _ ih | case4 _ _ ih => exact (ih h).trans (List.suffix_cons _ _)
  | case5 => simp at h
  | case6 => simp at h
  | case7 => cases h; exact List.suffix_rfl
  | case8 => cases h; exact List.suffix_rfl

namespace Reader

lemma bind_eq {r : Reader α} {k : α → Reader β} (h : r ts = some (a, us)) :
    (r >>= k) ts = k a us := by
  change Option.bind _ _ = _
  rw [h]
  rfl

lemma discard_eq {r : Reader α} (h : r ts = some (a, us)) : (discard r) ts = some ((), us) := by
  have hd : (discard r) ts = (r >>= fun _ => pure ()) ts := rfl
  rw [hd, bind_eq h]
  rfl

lemma get_eq (ts : List Lexeme) : (get : Reader (List Lexeme)) ts = some (ts, ts) := rfl

lemma spelled_eq {r : Reader α} {its : List Lexeme} (hu : upcoming .closed ts = its ++ us)
    (h : r (its ++ us) = some (a, us)) : spelled r ts = some ((a, Lexeme.spell its), us) := by
  have ht : (its ++ us).take ((its ++ us).length - us.length) = its :=
    List.take_left' (by simp)
  simp only [spelled, hu, h, bind, Option.bind_some]
  rw [ht]
  rfl

/-! ### Repetitions -/

/-- Run on `ts` again and again, `r` reads `as` and declines at `us`. -/
inductive Repeats (r : Reader (Option α)) : List Lexeme → List α → List Lexeme → Prop
  | stop {ts : List Lexeme} : r ts = some (none, ts) → Repeats r ts [] ts
  | step {ts us vs : List Lexeme} {a : α} {as : List α} :
      r ts = some (some a, us) → Repeats r us as vs → Repeats r ts (a :: as) vs

lemma manyUpTo_eq {r : Reader (Option α)} {as : List α} (h : Repeats r ts as us) {n : ℕ}
    (hn : as.length ≤ n) : manyUpTo r n ts = some (as, us) := by
  induction h generalizing n with
  | stop h =>
    cases n with
    | zero => rfl
    | succ n =>
      rw [manyUpTo, bind_eq h]
      rfl
  | step h _ ih =>
    obtain ⟨n, rfl⟩ : ∃ k, n = k + 1 := ⟨n - 1, by simp at hn; omega⟩
    rw [manyUpTo, bind_eq h]
    simp only
    rw [bind_eq (ih (by simpa using hn))]
    rfl

lemma many_eq {r : Reader (Option α)} {as : List α} (h : Repeats r ts as us)
    (hn : as.length ≤ ts.length) : many r ts = some (as, us) :=
  manyUpTo_eq h hn

/-- From `ts` on, each row of `as` with a terminator behind it, up to the mark `close`. -/
inductive Rows (close : String) (r : Reader α) : List Lexeme → List α → List Lexeme → Prop
  | close {ts : List Lexeme} : sees .closed close ts = some (true, ts) → Rows close r ts [] ts
  | row {ts us vs ws : List Lexeme} {a : α} {as : List α} :
      sees .closed close ts = some (false, ts) → r ts = some (a, us) →
      terminator? us = some (true, vs) → Rows close r vs as ws → Rows close r ts (a :: as) ws

variable {close : String} {r : Reader α} {as : List α}

lemma lines_eq (h : Rows close r ts as us) (hn : as.length ≤ ts.length)
    (hc : mark close us = some ((), vs)) : lines close r ts = some (as, vs) := by
  have hr : Repeats (do
      if ← sees .closed close then return none
      let a ← r
      return some (a, ← terminator?)) ts (as.map (·, true)) us := by
    clear hn hc
    induction h with
    | close h =>
      refine .stop ?_
      rw [bind_eq h]
      rfl
    | row h₁ h₂ h₃ _ ih =>
      refine .step ?_ ih
      rw [bind_eq h₁]
      simp only [Bool.false_eq_true, ite_false]
      rw [bind_eq h₂, bind_eq h₃]
      rfl
  have hall : (as.map (·, true)).dropLast.all (·.2) = true := by
    rw [List.all_eq_true]
    intro p hp
    obtain ⟨a, -, rfl⟩ := List.mem_map.mp (List.dropLast_subset _ hp)
    rfl
  rw [lines, bind_eq (many_eq hr (by simpa using hn)), bind_eq hc, hall, bind_eq (by rfl)]
  simp only [List.map_map, Function.comp_def, List.map_id']
  rfl

lemma fullLines_eq (h : Rows close r ts as us) (hn : as.length ≤ ts.length)
    (hc : mark close us = some ((), vs)) : fullLines close r ts = some (as, vs) := by
  have hr : Repeats (do
      if ← sees .closed close then return none
      let a ← r
      terminator
      return some a) ts as us := by
    clear hn hc
    induction h with
    | close h =>
      refine .stop ?_
      rw [bind_eq h]
      rfl
    | @row _ us vs _ _ _ h₁ h₂ h₃ _ ih =>
      refine .step ?_ ih
      have ht : terminator us = some ((), vs) := by
        rw [terminator, bind_eq h₃]
        rfl
      rw [bind_eq h₁]
      simp only [Bool.false_eq_true, ite_false]
      rw [bind_eq h₂, bind_eq ht]
      rfl
  rw [fullLines, bind_eq (many_eq hr hn), bind_eq hc]
  rfl

end Reader

/-! ### Trivia in front -/

section Trivia

open Lexeme

lemma next_trivia {lead : List Lexeme} (h : ∀ t ∈ lead, isTrivia t = true) (ts : List Lexeme) :
    next .closed (lead ++ ts) = next .closed ts := by
  induction lead with
  | nil => rfl
  | cons t lead ih =>
    have ih := ih fun u hu => h u (by simp [hu])
    have ht := h t (by simp)
    cases t with
    | blank _ | comment _ | newline => exact ih
    | word _ | number _ | string _ | rune _ | mark _ => simp [isTrivia] at ht

lemma upcoming_trivia {lead : List Lexeme} (h : ∀ t ∈ lead, isTrivia t = true)
    (ts : List Lexeme) : upcoming .closed (lead ++ ts) = upcoming .closed ts := by
  rw [upcoming, upcoming, next_trivia h]

lemma upcoming_of_cons {t : Lexeme} (ht : isTrivia t = false) (us : List Lexeme) :
    upcoming .closed (t :: us) = t :: us := by
  cases t <;> simp_all [upcoming, next, isTrivia]

variable {lead : List Lexeme} (hl : ∀ t ∈ lead, isTrivia t = true) (n : String) (us : List Lexeme)

include hl in
lemma upcoming_word : upcoming .closed (lead ++ .word n :: us) = .word n :: us := by
  rw [upcoming_trivia hl]
  rfl

include hl in
lemma takes_word {op : String} (hop : op.toList ≠ []) :
    takes .closed op (lead ++ .word n :: us) = some (false, lead ++ .word n :: us) := by
  obtain ⟨c, cs, hc⟩ := List.exists_cons_of_ne_nil hop
  simp [takes, upcoming_word hl, hc, dropMarks]

include hl in
lemma sees_word {op : String} (hop : op.toList ≠ []) :
    sees .closed op (lead ++ .word n :: us) = some (false, lead ++ .word n :: us) := by
  obtain ⟨c, cs, hc⟩ := List.exists_cons_of_ne_nil hop
  simp [sees, upcoming_word hl, hc, dropMarks]

include hl in
lemma word_trivia : Reader.word (lead ++ .word n :: us) = some (n, us) := by
  rw [Reader.word, next_trivia hl]
  rfl

lemma mark_trivia {lead : List Lexeme} (hl : ∀ t ∈ lead, isTrivia t = true) (c : Char)
    (us : List Lexeme) :
    Reader.mark (String.singleton c) (lead ++ .mark c :: us) = some ((), us) := by
  have hu : upcoming .closed (lead ++ .mark c :: us) = .mark c :: us := by
    rw [upcoming_trivia hl]
    rfl
  simp [Reader.mark, hu, dropMarks]

end Trivia

lemma sepList_one {α : Type} {r : Reader α} {tail : Tail} {sep : String} {ts us : List Lexeme}
    {a : α} (h : r ts = some (a, us)) (hs : takes tail sep us = some (false, us)) :
    sepList tail sep r ts = some ([a], us) := by
  rw [sepList, bind_eq h, bind_eq (many_eq (.stop ?_) (Nat.zero_le _))]
  · rfl
  · rw [bind_eq hs]
    rfl

end SchemaGo.Go.Grammar
