import Mathlib
import SchemaGo.Proofs.Go.Comments

/-!
Runs of comments between the items of a source. Where a run is trimmed at its end its last comment
is, and where it is taken apart line by line every comment in it is.
-/

namespace SchemaGo.Go

open Lexeme Text

variable {s : String} {cs : List String} {p : String}

/-- A comment, and the texts that are printed in its place. -/
structure Rewritten where
  comment : String
  texts : List String

namespace Rewritten

/-- The comments one by one, without white space at both ends of their lines and without blank
lines. -/
def byLine (cs : List String) : List Rewritten :=
  cs.map fun c => ⟨c, ReadState.commentLines c⟩

/-- The last of the comments, without white space at its end. -/
def atEnd (cs : List String) : List Rewritten :=
  cs.getLast?.toList.map fun c => ⟨c, [trimmed trimEnd c]⟩

/-- How often `s` is one of the texts printed. -/
def gained (s : String) (rs : List Rewritten) : ℕ := (rs.flatMap (·.texts)).count s

/-- How often `s` is one of the comments. -/
def lost (s : String) (rs : List Rewritten) : ℕ := (rs.map (·.comment)).count s

@[simp] lemma gained_nil (s : String) : gained s [] = 0 := rfl

@[simp] lemma lost_nil (s : String) : lost s [] = 0 := rfl

@[simp] lemma gained_append (s : String) (rs rs' : List Rewritten) :
    gained s (rs ++ rs') = gained s rs + gained s rs' := by
  simp [gained, List.count_append]

@[simp] lemma lost_append (s : String) (rs rs' : List Rewritten) :
    lost s (rs ++ rs') = lost s rs + lost s rs' := by
  simp [lost, List.count_append]

lemma lost_byLine (s : String) (cs : List String) : lost s (byLine cs) = cs.count s := by
  simp [lost, byLine, Function.comp_def]

end Rewritten

/-- The text is made of the comments, in their order, and of what stands between and behind
them. -/
inductive Strung : List String → String → Prop
  | nil : Strung [] ""
  | gap {cs : List String} {p : String} (text : String) : Strung cs p → Strung cs (p ++ text)
  | comment {cs : List String} {p : String} (c : String) :
      Strung cs p → Strung (cs ++ [c]) (p ++ c)

lemma Strung.count_le (h : Strung cs p) (hs : s ≠ "") : cs.count s ≤ occurrences s p := by
  induction h with
  | nil => simp
  | @gap _ p text _ ih =>
    have := occurrences_append_le hs p text
    omega
  | @comment _ p c _ ih =>
    have happ := occurrences_append_le hs p c
    have hone := count_le_sum_occurrences hs [c]
    rw [List.map_singleton, List.sum_singleton] at hone
    rw [List.count_append]
    omega

/-- **A run that is trimmed at its end** holds its comments, but for the last one. -/
lemma Strung.kept_trimEnd (h : Strung cs p) (hs : s ≠ "") (hcs : ∀ c ∈ cs, Slashed c) :
    cs.count s + Rewritten.gained s (Rewritten.atEnd cs) ≤
      occurrences s (trimmed trimEnd p) + Rewritten.lost s (Rewritten.atEnd cs) := by
  induction h with
  | nil => simp [Rewritten.atEnd]
  | @gap _ p text _ ih =>
    have hle : occurrences s (trimmed trimEnd p) ≤
        occurrences s (trimmed trimEnd (p ++ text)) := by
      simp only [occurrences, trimmed, String.toList_ofList, String.toList_append, trimEnd_append]
      refine occurrencesFrom_le_of_infix (toList_ne_nil hs) ?_
      split
      · exact List.infix_rfl
      · exact ((trimEnd_isPrefix _).trans (List.prefix_append _ _)).isInfix
    have := ih hcs
    omega
  | @comment cs p c h ih =>
    have hc : trimEnd c.toList ≠ [] := (hcs c (by simp)).trimEnd_ne_nil
    have htrim : trimmed trimEnd (p ++ c) = p ++ trimmed trimEnd c := by
      rw [trimmed, String.toList_append, trimEnd_append, if_neg hc, String.ofList_append,
        String.ofList_toList, trimmed]
    have happ := occurrences_append_le hs p (trimmed trimEnd c)
    have hone := count_le_sum_occurrences hs [trimmed trimEnd c]
    have hle := h.count_le hs
    simp only [Rewritten.atEnd, Rewritten.gained, Rewritten.lost, List.getLast?_concat,
      Option.toList_some, List.map_cons, List.map_nil, List.flatMap_cons, List.flatMap_nil,
      List.append_nil, List.count_append, List.sum_singleton] at hone ⊢
    rw [htrim]
    omega

/-! ### Lines -/

/-- How often `t` stands in the trimmed lines of a text, the first of which begins with `line`. -/
def lineOccurrences (t : List Char) : List Char → List Char → ℕ
  | line, [] => occurrencesFrom t 0 (trim line)
  | line, c :: cs =>
    if c = '\n' then occurrencesFrom t 0 (trim line) + lineOccurrences t [] cs
    else lineOccurrences t (line ++ [c]) cs

lemma sum_filterMap_trim (s : String) (ls : List (List Char)) :
    ((ls.filterMap fun l => if (trim l).isEmpty then none else some (String.ofList (trim l))).map
      (occurrences s)).sum = (ls.map fun l => occurrencesFrom s.toList 0 (trim l)).sum := by
  induction ls with
  | nil => rfl
  | cons l ls ih =>
    rw [List.map_cons, List.sum_cons, ← ih, List.filterMap_cons]
    by_cases hl : trim l = []
    · simp [hl, occurrencesFrom]
    · simp [hl, occurrences]

lemma modifyHead_nil_append (ls : List (List Char)) : ls.modifyHead ([] ++ ·) = ls := by
  cases ls <;> rfl

lemma lineOccurrences_eq (t line cs : List Char) :
    lineOccurrences t line cs =
      (((cs.splitOn '\n').modifyHead (line ++ ·)).map fun l =>
        occurrencesFrom t 0 (trim l)).sum := by
  fun_induction lineOccurrences t line cs with
  | case1 => simp
  | case2 line cs ih =>
    rw [ih, modifyHead_nil_append, List.splitOn, List.splitOn, List.splitOnP_cons_eq_if_modifyHead]
    simp
  | case3 line c cs hc ih =>
    rw [ih, List.splitOn, List.splitOn, List.splitOnP_cons_eq_if_modifyHead]
    simp [hc, Function.comp_def]

lemma sum_commentLines (s p : String) :
    ((ReadState.commentLines p).map (occurrences s)).sum =
      lineOccurrences s.toList [] p.toList := by
  rw [lineOccurrences_eq, modifyHead_nil_append, ← sum_filterMap_trim]
  rfl

variable {t : List Char}

lemma lineOccurrences_append_of_blank {w : List Char} (hw : ∀ c ∈ w, isBlank c = true)
    (line cs : List Char) : lineOccurrences t line (cs ++ w) = lineOccurrences t line cs := by
  have key : ∀ (w : List Char) line, (∀ c ∈ w, isBlank c = true) →
      lineOccurrences t line w = occurrencesFrom t 0 (trim line) := by
    intro w
    induction w with
    | nil => exact fun line _ => rfl
    | cons c w ih =>
      intro line hw
      have hrest : ∀ d ∈ w, isBlank d = true := fun d hd => hw d (by simp [hd])
      unfold lineOccurrences
      split
      · rw [ih [] hrest]
        rfl
      · rw [ih _ hrest, trim_append_of_blank (by simpa using hw c (by simp))]
  fun_induction lineOccurrences t line cs with
  | case1 line => exact key w line hw
  | case2 line cs ih => simp [lineOccurrences, ih]
  | case3 line c cs hc ih => simp [lineOccurrences, hc, ih]

lemma lineOccurrences_append_le (ht : t ≠ []) (line a b : List Char) :
    lineOccurrences t line a + lineOccurrences t [] b ≤ lineOccurrences t line (a ++ b) := by
  have key : ∀ (b : List Char) line line', occurrencesFrom t 0 (trim line) +
      lineOccurrences t line' b ≤ lineOccurrences t (line ++ line') b := by
    intro b
    induction b with
    | nil => exact fun line line' => occurrencesFrom_trim_append_le ht line line'
    | cons c b ih =>
      intro line line'
      unfold lineOccurrences
      split
      · have := occurrencesFrom_trim_append_le ht line line'
        omega
      · simpa using ih line (line' ++ [c])
  fun_induction lineOccurrences t line a with
  | case1 line => simpa using key b line []
  | case2 line a ih =>
    rw [List.cons_append, lineOccurrences, if_pos rfl]
    omega
  | case3 line c a hc ih =>
    rw [List.cons_append, lineOccurrences, if_neg hc]
    exact ih

lemma Strung.gained_byLine_le (h : Strung cs p) (hs : s ≠ "") :
    Rewritten.gained s (Rewritten.byLine cs) ≤ lineOccurrences s.toList [] p.toList := by
  induction h with
  | nil => simp [Rewritten.byLine]
  | @gap _ p text _ ih =>
    have happ := lineOccurrences_append_le (toList_ne_nil hs) [] p.toList text.toList
    rw [String.toList_append]
    omega
  | @comment cs p c _ ih =>
    have happ := lineOccurrences_append_le (toList_ne_nil hs) [] p.toList c.toList
    have hlines := count_le_sum_occurrences hs (ReadState.commentLines c)
    rw [sum_commentLines] at hlines
    have hsplit : Rewritten.gained s (Rewritten.byLine (cs ++ [c])) =
        Rewritten.gained s (Rewritten.byLine cs) + (ReadState.commentLines c).count s := by
      simp [Rewritten.byLine, Rewritten.gained]
    rw [hsplit, String.toList_append]
    omega

/-- **A run that is taken apart line by line** holds the lines of its comments. -/
lemma Strung.gained_le_commentLines (h : Strung cs p) (hs : s ≠ "") :
    Rewritten.gained s (Rewritten.byLine cs) ≤
      ((ReadState.commentLines (trimmed trimEnd p)).map (occurrences s)).sum := by
  obtain ⟨w, hp, hw⟩ := trimEnd_blank p.toList
  have hblank := lineOccurrences_append_of_blank (t := s.toList) hw [] (trimEnd p.toList)
  rw [← hp] at hblank
  rw [sum_commentLines, trimmed, String.toList_ofList, ← hblank]
  exact h.gained_byLine_le hs

end SchemaGo.Go
