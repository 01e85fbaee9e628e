import Mathlib
import SchemaGo.Proofs.Go.Calls

/-!
Blocks of generated functions: code whose lexemes end where the next ones begin, statements that
are read on lines of their own, and blocks that are made of such lines.
-/

namespace SchemaGo.Go

open Grammar Reader Lexeme

variable {ts us : List Lexeme}

/-! ### Code -/

/-- The text is made of blanks and tabs. -/
def isSpaces (s : String) : Bool := !s.isEmpty && s.toList.all fun c => c == ' ' || c == '\t'

lemma isSpaces_of_isSpaces {s : String} (h : isSpaces s = true) : IsSpaces s := by
  simpa [isSpaces, IsSpaces] using h

/-- Whether `t` ends where `u` begins. -/
def isApart : Lexeme → Lexeme → Bool
  | .newline, _ => true
  | .word w, .blank s => isWord w && isSpaces s
  | .word w, .newline => isWord w
  | .word w, .mark c => isWord w && !Unicode.isIdentPart c
  | .blank s, .word w => isSpaces s && isWord w
  | .blank s, .mark c => isSpaces s && !isSpace c
  | .blank s, .number n => isSpaces s && n == "0"
  | .number n, .blank s => n == "0" && isSpaces s
  | .mark '.', .word w => isWord w
  | .mark '.', .mark c => !c.isDigit
  | .mark c, _ => isPlainMark c
  | _, _ => false

lemma reads_zero {s : String} (hs : IsSpaces s) (cs : List Char) :
    Reads (.number "0") (s.toList ++ cs) := by
  obtain ⟨d, rest, hd⟩ := List.exists_cons_of_ne_nil hs.1
  rw [hd]
  rcases hs.2 d (by simp [hd]) with rfl | rfl <;> exact ⟨'0', [], rfl, rfl⟩

lemma reads_of_isApart {t u : Lexeme} (h : isApart t u = true) (cs : List Char) :
    Reads t (u.text.toList ++ cs) := by
  unfold isApart at h
  split at h
  · exact reads_newline _
  · rw [Bool.and_eq_true] at h
    exact reads_word h.1 ((isSpaces_of_isSpaces h.2).isIdentPart cs)
  · refine reads_word h ?_
    rintro c ⟨rfl⟩
    rfl
  · rw [Bool.and_eq_true, Bool.not_eq_true'] at h
    refine reads_word h.1 fun c hc => ?_
    obtain rfl : _ = c := by simpa [Lexeme.text] using hc
    exact h.2
  · rw [Bool.and_eq_true] at h
    exact (isSpaces_of_isSpaces h.1).reads (isSpace_of_isWord h.2 cs)
  · rw [Bool.and_eq_true, Bool.not_eq_true'] at h
    refine (isSpaces_of_isSpaces h.1).reads fun c hc => ?_
    obtain rfl : _ = c := by simpa [Lexeme.text] using hc
    exact h.2
  · rw [Bool.and_eq_true, beq_iff_eq] at h
    obtain ⟨hs, rfl⟩ := h
    refine (isSpaces_of_isSpaces hs).reads ?_
    rintro c ⟨rfl⟩
    rfl
  · rw [Bool.and_eq_true, beq_iff_eq] at h
    obtain ⟨rfl, hs⟩ := h
    exact reads_zero (isSpaces_of_isSpaces hs) cs
  · exact reads_pointBefore h cs
  · rw [Bool.not_eq_true'] at h
    simpa [Lexeme.text] using reads_point h cs
  · exact reads_mark h _
  · simp at h

/-- Whether each of the lexemes ends where the next one begins, the last of them in front of
`last`. -/
def isCode : List Lexeme → Lexeme → Bool
  | [], _ => true
  | [t], last => isApart t last
  | t :: u :: ts, last => isApart t u && isCode (u :: ts) last

lemma readsAll_of_isCode {u : Lexeme} (h : isCode ts u = true) (cs : List Char) :
    ReadsAll ts (u.text.toList ++ cs) := by
  induction ts with
  | nil => trivial
  | cons t ts ih =>
    cases ts with
    | nil => exact ⟨reads_of_isApart h cs, trivial⟩
    | cons next ts =>
      rw [isCode, Bool.and_eq_true] at h
      refine ⟨?_, ih h.2⟩
      rw [chars_cons, List.append_assoc]
      exact reads_of_isApart h.1 _

/-! ### Lines of a block -/

lemma looks_seesEnd : Looks (seesEnd .line) := by
  intro ts
  obtain ⟨k, hk, hpure⟩ : ∃ k : Option Lexeme → Reader Bool, seesEnd .line = peek .closed >>= k ∧
      ∀ t, ∃ e, ∀ us, k t us = some (e, us) :=
    ⟨_, rfl, fun t => by split <;> exact ⟨_, fun _ => rfl⟩⟩
  obtain ⟨t, ht, hl⟩ := looks_peek ts
  obtain ⟨e, he⟩ := hpure t
  refine ⟨e, ?_, fun lead h => ?_⟩
  · rw [hk, bind_eq ht]
    exact he ts
  · rw [hk, bind_eq (hl lead h)]
    exact he (lead ++ ts)

lemma skips_simple (inner : Inner) : Skips (simple inner (.body .line)) := by
  have hr : range? inner (.body .line) = pure false := rfl
  rw [simple, hr, pure_bind]
  exact (skips_exprOrType inner _).bind

lemma skips_statementAt (inner : Inner) : Skips (statementAt inner .line false) := by
  have hsimple : Skips (simpleOrLabelled inner .line false) := (skips_simple inner).bind
  refine looks_peek.bind fun t => ?_
  split
  · exact (skips_mark _).bind
  · exact skips_mark _
  · split
    · exact (skips_word.bind).discard
    · split
      all_goals first
        | exact skips_word.discard.bind
        | exact skips_word.discard
        | exact hsimple
  · exact hsimple

/-- The lexemes of a statement that is read on a line of its own. -/
structure IsStatement (ts : List Lexeme) : Prop where
  first : ∃ w rest, ts = .word w :: rest
  reads : ∀ cs, ReadsAll ts ('\n' :: cs)
  runs : ∀ D us, ts.length < D →
    statementAt (upTo D) .line false (ts ++ .newline :: us) = some ((), .newline :: us)

/-- What stands in front of a line at a depth of `n`. -/
def tabs (n : ℕ) : String := String.ofList (List.replicate n '\t')

def indent (n : ℕ) : List Lexeme := if n = 0 then [] else [.blank (tabs n)]

lemma spell_indent (n : ℕ) : spell (indent n) = tabs n := by
  cases n <;> simp [indent, tabs, spell_cons, Lexeme.text]

lemma isTrivia_indent {n : ℕ} : ∀ t ∈ indent n, isTrivia t = true := by
  unfold indent
  split <;> simp [isTrivia]

lemma reads_indent (n : ℕ) {cs : List Char} (hcs : ∀ c ∈ cs.head?, isSpace c = false) :
    ReadsAll (indent n) cs := by
  unfold indent
  split
  · trivial
  · next hn =>
    have hs : IsSpaces (tabs n) := by
      constructor
      · simpa [tabs] using hn
      · intro c hc
        simp only [tabs, String.toList_ofList, List.mem_replicate] at hc
        exact .inr hc.2
    refine ⟨hs.reads ?_, trivial⟩
    simpa using hcs

/-- The lexemes of lines at a depth of `n`. -/
def lineLexemes (n : ℕ) (xs : List (List Lexeme)) : List Lexeme :=
  xs.flatMap fun x => indent n ++ (x ++ [.newline])

/-- What reads a statement of a block, unless the block ends. -/
def blockCell (inner : Inner) : Reader (Option Bool) := do
  if ← seesEnd .line then return none
  statementAt inner .line false
  return some (← terminator?)

lemma IsStatement.step (h : IsStatement ts) {D : ℕ} (hD : ts.length < D) (us : List Lexeme) :
    blockCell (upTo D) (ts ++ .newline :: us) = some (some true, us) := by
  obtain ⟨w, rest, rfl⟩ := h.first
  rw [blockCell, bind_eq (show seesEnd .line _ = some (false, _) from rfl)]
  simp only [Bool.false_eq_true, ite_false]
  rw [bind_eq (h.runs D us hD)]
  rfl

lemma skips_blockCell {inner : Inner} {lead : List Lexeme} (hl : ∀ t ∈ lead, isTrivia t = true)
    {b : Bool} (h : blockCell inner ts = some (some b, us)) :
    blockCell inner (lead ++ ts) = some (some b, us) := by
  obtain ⟨e, he, hlead⟩ := looks_seesEnd ts
  rw [blockCell, bind_eq he] at h
  rw [blockCell, bind_eq (hlead lead hl)]
  cases e with
  | true => exact absurd h (by simp [pure, StateT.pure])
  | false =>
    simp only [Bool.false_eq_true, ite_false] at h ⊢
    rw [(skips_statementAt inner).bind lead ts hl]
    exact h

lemma blockCell_close (inner : Inner) {lead : List Lexeme} (hl : ∀ t ∈ lead, isTrivia t = true)
    (us : List Lexeme) :
    blockCell inner (lead ++ .mark '\x7d' :: us) = some (none, lead ++ .mark '\x7d' :: us) := by
  obtain ⟨e, he, hlead⟩ := looks_seesEnd (.mark '\x7d' :: us)
  have hsees : seesEnd .line (.mark '\x7d' :: us) = some (true, .mark '\x7d' :: us) := rfl
  obtain rfl : true = e := by simpa [hsees] using he
  rw [blockCell, bind_eq (hlead lead hl)]
  rfl

/-- Line by line. What is left in front of the brace is no statement. -/
lemma repeats_lines {xs : List (List Lexeme)} (h : ∀ x ∈ xs, IsStatement x) (n m : ℕ)
    {D : ℕ} (hD : ∀ x ∈ xs, x.length < D) {lead : List Lexeme}
    (hl : ∀ t ∈ lead, isTrivia t = true) (us : List Lexeme) :
    ∃ lead', (∀ t ∈ lead', isTrivia t = true) ∧
      Repeats (blockCell (upTo D)) (lead ++ (lineLexemes n xs ++ (indent m ++ .mark '\x7d' :: us)))
        (xs.map fun _ => true) (lead' ++ .mark '\x7d' :: us) := by
  induction xs generalizing lead with
  | nil =>
    have hlead : ∀ t ∈ lead ++ indent m, isTrivia t = true :=
      List.forall_mem_append.mpr ⟨hl, isTrivia_indent⟩
    have hstop := blockCell_close (upTo D) hlead us
    rw [List.append_assoc] at hstop
    refine ⟨lead ++ indent m, hlead, ?_⟩
    rw [List.append_assoc]
    exact .stop hstop
  | cons x xs ih =>
    obtain ⟨lead', hl', hrest⟩ := ih (fun y hy => h y (by simp [hy]))
      (fun y hy => hD y (by simp [hy])) (show ∀ t ∈ ([] : List Lexeme), isTrivia t = true by simp)
    have hlead : ∀ t ∈ lead ++ indent n, isTrivia t = true :=
      List.forall_mem_append.mpr ⟨hl, isTrivia_indent⟩
    have hstep := skips_blockCell hlead ((h x (by simp)).step (hD x (by simp))
      (lineLexemes n xs ++ (indent m ++ .mark '\x7d' :: us)))
    refine ⟨lead', hl', ?_⟩
    simp only [lineLexemes, List.flatMap_cons, List.map_cons] at hstep hrest ⊢
    refine .step ?_ hrest
    simpa using hstep

lemma length_le_lineLexemes (n : ℕ) (xs : List (List Lexeme)) :
    xs.length ≤ (lineLexemes n xs).length ∧
      ∀ x ∈ xs, x.length < (lineLexemes n xs).length := by
  induction xs with
  | nil => simp
  | cons x xs ih =>
    obtain ⟨hlen, hmem⟩ := ih
    have hcons : (lineLexemes n (x :: xs)).length =
        (indent n).length + x.length + 1 + (lineLexemes n xs).length := by
      simp [lineLexemes]
      omega
    refine ⟨by simp; omega, fun y hy => ?_⟩
    rcases List.mem_cons.mp hy with rfl | hy
    · omega
    · have := hmem y hy
      omega

lemma reads_lineLexemes {xs : List (List Lexeme)} (h : ∀ x ∈ xs, IsStatement x) (n : ℕ)
    (cs : List Char) : ReadsAll (lineLexemes n xs) cs := by
  induction xs with
  | nil => trivial
  | cons x xs ih =>
    obtain ⟨w, rest, hx⟩ := (h x (by simp)).first
    have hline : ReadsAll (x ++ [.newline]) (chars (lineLexemes n xs) ++ cs) :=
      readsAll_append.mpr ⟨(h x (by simp)).reads _, reads_newline _, trivial⟩
    rw [lineLexemes, List.flatMap_cons, readsAll_append, readsAll_append]
    refine ⟨⟨reads_indent n ?_, hline⟩, ih fun y hy => h y (by simp [hy])⟩
    rw [hx] at hline ⊢
    exact hline.isSpace_head rfl _

/-- The lexemes of a block at a depth of `n`, from its brace on. -/
def blockLexemes (n : ℕ) (xs : List (List Lexeme)) : List Lexeme :=
  .mark '\x7b' :: .newline :: (lineLexemes (n + 1) xs ++ (indent n ++ [.mark '\x7d']))

lemma reads_blockLexemes {xs : List (List Lexeme)} (h : ∀ x ∈ xs, IsStatement x) (n : ℕ)
    (cs : List Char) : ReadsAll (blockLexemes n xs) cs := by
  refine ⟨reads_mark (by rfl) _, reads_newline _, readsAll_append.mpr
    ⟨reads_lineLexemes h _ _, readsAll_append.mpr ⟨reads_indent n ?_, reads_mark (by rfl) _,
      trivial⟩⟩⟩
  rintro c ⟨rfl⟩
  rfl

/-- **A block of statements is read line by line.** -/
lemma block_eq {xs : List (List Lexeme)} (h : ∀ x ∈ xs, IsStatement x) (n : ℕ)
    {D : ℕ} (hD : (blockLexemes n xs).length < D) (us : List Lexeme) :
    block (upTo D) (blockLexemes n xs ++ us) = some ((), us) := by
  obtain ⟨k, rfl⟩ : ∃ k, D = k + 1 := ⟨D - 1, by omega⟩
  obtain ⟨hlen, hmem⟩ := length_le_lineLexemes (n + 1) xs
  have hlines : (lineLexemes (n + 1) xs).length < k := by
    simp [blockLexemes] at hD
    omega
  obtain ⟨ts, hts⟩ : ∃ ts, ts = lineLexemes (n + 1) xs ++ (indent n ++ .mark '\x7d' :: us) :=
    ⟨_, rfl⟩
  obtain ⟨lead, hlead, hrep⟩ := repeats_lines h (n + 1) n (fun x hx => (hmem x hx).trans hlines)
    (show ∀ t ∈ [Lexeme.newline], isTrivia t = true by simp [isTrivia]) us
  rw [← hts] at hrep
  have hall : ((xs.map fun _ => true).dropLast.all id) = true := by
    rw [List.all_eq_true]
    intro b hb
    obtain ⟨-, -, rfl⟩ := List.mem_map.mp (List.dropLast_subset _ hb)
    rfl
  have hlist : statementsAt (upTo k) .line (.newline :: ts) =
      some ((), lead ++ .mark '\x7d' :: us) := by
    rw [statementsAt]
    refine (bind_eq (many_eq hrep ?_)).trans ?_
    · simp [hts]
      omega
    · rw [hall]
      rfl
  have hstatements : upTo (k + 1) (.statements .line) (.newline :: ts) =
      some (.nothing, lead ++ .mark '\x7d' :: us) := by
    change (statementsAt (upTo k) .line >>= fun _ => pure Reading.nothing) _ = _
    rw [bind_eq hlist]
    rfl
  have hblock : blockLexemes n xs ++ us = .mark '\x7b' :: .newline :: ts := by
    simp [blockLexemes, hts]
  rw [hblock, block, bind_eq (show Reader.mark "\x7b" _ = some ((), _) from rfl),
    bind_eq (discard_eq hstatements)]
  exact mark_trivia hlead '\x7d' us

end SchemaGo.Go
