import Mathlib
import SchemaGo.Proofs.Go.Scan

/-!
The lexemes that come out of scanning a source: words are identifiers, blanks are white space, and
a comment runs up to the end of its line or closes itself.
-/

namespace SchemaGo.Go.Lexeme

open Text Unicode

variable {t : Lexeme} {c : Char} {cs rest : List Char} {source : String} {us : List Lexeme}

/-- The text of a comment in front of `rest`. -/
inductive IsCommentText : List Char → List Char → Prop
  | line {body rest : List Char} : '\n' ∉ body → (∀ c ∈ rest.head?, c = '\n') →
      IsCommentText ('/' :: '/' :: body) rest
  | general (body rest : List Char) : IsCommentText ('/' :: '*' :: (body ++ ['*', '/'])) rest

/-! ### One lexeme -/

lemma takeWhile_split (p : Char → Bool) (cs : List Char) :
    ∃ front rest, cs = front ++ rest ∧ cs.takeWhile p = front ∧ (∀ c ∈ front, p c = true) ∧
      ∀ c ∈ rest.head?, p c = false := by
  refine ⟨cs.takeWhile p, cs.dropWhile p, List.takeWhile_append_dropWhile.symm, rfl,
    fun _ => List.mem_takeWhile_imp, fun c hc => ?_⟩
  have h := List.head?_dropWhile_not p cs
  rw [Option.mem_def.mp hc] at h
  exact h

lemma commentLength_inv {n : ℕ} (h : commentLength cs = some n) :
    ∃ body, cs.take n = body ++ ['*', '/'] := by
  induction cs using commentLength.induct generalizing n with
  | case1 => simp [commentLength] at h
  | case2 cs =>
    obtain rfl : 2 = n := by simpa [commentLength] using h
    exact ⟨[], rfl⟩
  | case3 c cs hc ih =>
    rw [commentLength.eq_3 c cs hc] at h
    obtain ⟨m, hm, rfl⟩ := Option.map_eq_some_iff.mp h
    obtain ⟨body, hb⟩ := ih hm
    exact ⟨c :: body, by simp [hb]⟩

/-- What the text of a lexeme in front of `rest` has to be. -/
def Legible (rest : List Char) : Lexeme → Prop
  | blank s => s.toList ≠ [] ∧ ∀ c ∈ s.toList, isBlank c = true ∨ c = '\uFEFF'
  | word w => isWord w = true
  | comment s => IsCommentText s.toList rest
  | _ => True

lemma legible_splitOrMark (make : String → Lexeme) (h : ∀ s rest, (make s).Legible rest)
    (n : Option ℕ) (c : Char) (cs : List Char) :
    (splitOrMark make n c cs).1.Legible (splitOrMark make n c cs).2 := by
  cases n with
  | none => trivial
  | some n => exact h _ _

lemma legible_scanOne (c : Char) (cs : List Char) : (scanOne c cs).1.Legible (scanOne c cs).2 := by
  unfold scanOne
  split
  · trivial
  split
  · next hb =>
    obtain ⟨front, rest, rfl, ht, hf, -⟩ := takeWhile_split (fun d => isBlank d && d != '\n') cs
    simp only [split, ht, List.take_succ_cons, List.take_left, Legible, String.toList_ofList]
    refine ⟨by simp, fun d hd => ?_⟩
    rcases List.mem_cons.mp hd with rfl | hd
    · exact .inl hb
    · exact .inl (Bool.and_eq_true_iff.mp (hf d hd)).1
  split
  · next hi =>
    obtain ⟨front, rest, rfl, ht, hf, -⟩ := takeWhile_split isIdentPart cs
    simp only [split, ht, List.take_succ_cons, List.take_left, Legible, isWord,
      String.toList_ofList, hi, Bool.true_and, List.all_eq_true]
    exact hf
  split
  · exact legible_splitOrMark string (fun _ _ => trivial) _ _ _
  · exact legible_splitOrMark string (fun _ _ => trivial) _ _ _
  · exact legible_splitOrMark rune (fun _ _ => trivial) _ _ _
  · next cs _ _ _ =>
    obtain ⟨front, rest, rfl, ht, hf, hr⟩ := takeWhile_split (· != '\n') cs
    have hslash : ('/' :: (front ++ rest)).takeWhile (· != '\n') = '/' :: front := by
      rw [List.takeWhile_cons_of_pos (by rfl), ht]
    simp only [split, hslash, List.length_cons, List.take_succ_cons, List.take_left,
      List.drop_succ_cons, List.drop_left, Legible, String.toList_ofList]
    exact .line (fun hm => by simpa using hf _ hm) fun c hc => by simpa using hr c hc
  · next body _ _ _ =>
    rcases hn : commentLength body with _ | n
    · trivial
    · obtain ⟨body', hb⟩ := commentLength_inv hn
      simp only [Option.map_some, splitOrMark, split, List.take_succ_cons, hb, Legible,
        String.toList_ofList]
      exact .general body' _
  · split <;> trivial

/-! ### All lexemes -/

lemma legible_of_suffix_scanUpTo {n : ℕ} (hn : cs.length ≤ n) (h : t :: us <:+ scanUpTo n cs) :
    t.Legible (chars us) := by
  induction n generalizing cs with
  | zero => cases cs <;> simp [scanUpTo] at h
  | succ n ih =>
    rcases cs with _ | ⟨c, cs⟩
    · simp [scanUpTo] at h
    · have hle : (scanOne c cs).2.length ≤ n :=
        (cuts_scanOne c cs).2.trans (by simpa using hn)
      rw [scanUpTo, List.suffix_cons_iff] at h
      rcases h with h | h
      · cases h
        have hl := legible_scanOne c cs
        rwa [← toList_spell_scanUpTo n _ hle, toList_spell_eq_chars] at hl
      · exact ih hle h

/-- **Every lexeme of a source has the text that its class has.** -/
theorem legible_of_suffix_scan (h : t :: us <:+ scan source) : t.Legible (chars us) := by
  unfold scan at h
  split at h
  · simp at h
  · split at h
    · rcases List.suffix_cons_iff.mp h with h | h
      · cases h
        simp [Legible]
      · exact legible_of_suffix_scanUpTo le_rfl h
    · exact legible_of_suffix_scanUpTo (by simp) h

/-! ### In front of a word -/

/-- White space and comments in front of a word do not end with a point. -/
lemma getLast?_chars_of_suffix_scan {gap : List Lexeme} {w : String}
    (hg : ∀ u ∈ gap, isTrivia u = true) (hne : gap ≠ [])
    (h : gap ++ word w :: us <:+ scan source) : ∃ c ∈ (chars gap).getLast?, c ≠ '.' := by
  obtain ⟨front, t, rfl⟩ := List.eq_nil_or_concat' gap |>.resolve_left hne
  have htriv := hg t (by simp)
  have hw : (word w).Legible (chars us) :=
    legible_of_suffix_scan ((List.suffix_append _ _).trans h)
  have ht : t.Legible (chars (word w :: us)) :=
    legible_of_suffix_scan (.trans ⟨front, by simp⟩ h)
  have hlast : ∃ c ∈ t.text.toList.getLast?, c ≠ '.' := by
    cases t with
    | blank s =>
      obtain ⟨hs, hb⟩ := ht
      refine ⟨s.toList.getLast hs, List.getLast?_eq_some_getLast hs, fun hc => ?_⟩
      have := hb _ (List.getLast_mem hs)
      rw [hc] at this
      revert this
      decide
    | newline => exact ⟨'\n', rfl, by decide⟩
    | comment s =>
      obtain ⟨d, ds, hd, hstart, -⟩ := isWord_eq_true hw
      obtain ⟨cs, hcs⟩ : ∃ cs, cs = s.toList := ⟨_, rfl⟩
      have ht : IsCommentText cs (chars (word w :: us)) := hcs ▸ ht
      rw [Lexeme.text, ← hcs]
      cases ht with
      | line _ hbreak =>
        -- a comment up to the end of its line does not stand in front of a word
        obtain rfl := hbreak d (by simp [Lexeme.text, hd])
        exact absurd hstart (by decide)
      | general body _ => exact ⟨'/', by simp [List.getLast?_cons], by decide⟩
    | word _ | number _ | string _ | rune _ | mark _ => simp [isTrivia] at htriv
  obtain ⟨c, hc, hp⟩ := hlast
  refine ⟨c, ?_, hp⟩
  rw [chars_append, chars_cons, chars_nil, List.append_nil, List.getLast?_append,
    Option.mem_def.mp hc]
  rfl

end SchemaGo.Go.Lexeme
