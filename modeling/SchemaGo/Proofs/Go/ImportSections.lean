import Mathlib
import SchemaGo.Proofs.Go.Sections

/-!
The import section of a source: one import on a line, or a group with an entry on each line and
comments between.
-/

namespace SchemaGo.Go

open Grammar Lexeme

variable {ts us : List Lexeme} {f : File} {last : LastItem} {gap before : String}

/-! ### Entries -/

/-- The lexemes of an entry: a path, perhaps behind a name or a point. -/
inductive Entry : List Lexeme → Import → Prop
  | plain (literal : String) : Entry [.string literal] ⟨literal, none, unquote literal⟩
  | named (name literal : String) {mid : List Lexeme} (hm : ∀ t ∈ mid, isTrivia t = true) :
      Entry (.word name :: (mid ++ [.string literal]))
        ⟨spell (.word name :: (mid ++ [.string literal])), some name, unquote literal⟩
  | point (literal : String) {mid : List Lexeme} (hm : ∀ t ∈ mid, isTrivia t = true) :
      Entry (.mark '.' :: (mid ++ [.string literal]))
        ⟨spell (.mark '.' :: (mid ++ [.string literal])), some ".", unquote literal⟩

variable {ets : List Lexeme} {e : Import}

lemma Entry.text (h : Entry ets e) : e.text = spell ets := by
  cases h with
  | plain literal => simp [spell_cons, Lexeme.text]
  | named | point => rfl

/-- An entry begins with a lexeme that is no parenthesis. -/
lemma Entry.cons (h : Entry ets e) :
    ∃ t rest, ets = t :: rest ∧ isTrivia t = false ∧ ∀ us, dropMarks ['('] (t :: us) = none := by
  cases h with
  | plain | named => exact ⟨_, _, rfl, rfl, fun _ => rfl⟩
  | point => exact ⟨_, _, rfl, rfl, fun _ => by simp [dropMarks]⟩

lemma path_eq {mid : List Lexeme} (hm : ∀ t ∈ mid, isTrivia t = true) (literal : String)
    (us : List Lexeme) :
    importEntry.path (mid ++ .string literal :: us) = some (literal, us) := by
  have ha : Reader.advance (mid ++ .string literal :: us) = some (.string literal, us) := by
    rw [Reader.advance, next_trivia hm]
    rfl
  rw [importEntry.path, Reader.bind_eq ha]
  rfl

lemma importEntry_eq (h : Entry ets e) (lead : List Lexeme)
    (hl : ∀ t ∈ lead, isTrivia t = true) (us : List Lexeme) :
    importEntry (lead ++ (ets ++ us)) = some (e, us) := by
  obtain ⟨t, rest, ht, htriv, -⟩ := h.cons
  have hu : upcoming .closed (lead ++ (ets ++ us)) = ets ++ us := by
    rw [upcoming_trivia hl, ht]
    exact upcoming_of_cons htriv _
  cases h with
  | plain literal =>
    rw [importEntry, Reader.bind_eq (Reader.spelled_eq hu rfl)]
    simp [spell_cons, Lexeme.text]
    rfl
  | named name literal hm =>
    have hp := path_eq hm literal us
    rw [importEntry, Reader.bind_eq (a := ((some name, literal), _)) (Reader.spelled_eq hu ?_)]
    · rfl
    · rw [List.cons_append, List.append_assoc]
      rw [Reader.bind_eq (show Reader.advance _ = some (.word name, _) from rfl)]
      simp only
      exact (Reader.bind_eq hp).trans rfl
  | point literal hm =>
    have hp := path_eq hm literal us
    rw [importEntry, Reader.bind_eq (a := ((some ".", literal), _)) (Reader.spelled_eq hu ?_)]
    · rfl
    · rw [List.cons_append, List.append_assoc]
      rw [Reader.bind_eq (show Reader.advance _ = some (.mark '.', _) from rfl)]
      simp only
      exact (Reader.bind_eq hp).trans rfl

/-! ### Remarks -/

/-- The lexemes of comments on the line of an entry. -/
def remarks (cs : List String) : List Lexeme := cs.flatMap fun c => [.blank " ", .comment c]

lemma remarks_cons (c : String) (cs : List String) :
    remarks (c :: cs) = .blank " " :: .comment c :: remarks cs := rfl

lemma beside_remarks (cs : List String) : Beside (remarks cs) where
  kinds t ht := by
    obtain ⟨c, -, hc⟩ := List.mem_flatMap.mp ht
    simp only [List.mem_cons, List.not_mem_nil, or_false] at hc
    rcases hc with rfl | rfl <;> simp [isTrivia]
  terminators := by
    have h : (remarks cs).countP isTerminator = 0 := by
      rw [List.countP_eq_zero]
      intro t ht
      obtain ⟨c, -, hc⟩ := List.mem_flatMap.mp ht
      simp only [List.mem_cons, List.not_mem_nil, or_false] at hc
      rcases hc with rfl | rfl <;> simp [isTerminator]
    omega
  last t ht := by
    rcases List.eq_nil_or_concat cs with rfl | ⟨cs, c, rfl⟩
    · simp [remarks] at ht
    · exact ⟨c, by simpa [remarks, eq_comm] using ht⟩

lemma File.behind_imports (f : File) (s : ImportSpec) (text : String) :
    { f with imports := f.imports ++ [s] }.behind .imports text =
      { f with imports := f.imports ++ [{ s with text := s.text ++ text }] } := by
  have h := modify_length f.imports [] s fun s => { s with text := s.text ++ text }
  simp only [File.behind, List.length_append, List.length_singleton, Nat.add_sub_cancel]
  exact congrArg (fun l => { f with imports := l }) h

lemma foldl_step_remarks (cs : List String) :
    ((remarks cs).map piece).foldl ReadState.step ⟨f, true, before, "", none, .imports⟩ =
      ⟨f.behind .imports (spell (remarks cs)), true, before ++ spell (remarks cs), "", none,
        .imports⟩ := by
  induction cs generalizing f before with
  | nil => simp [remarks, File.behind_empty]
  | cons c cs ih =>
    have hs : ReadState.step (ReadState.step ⟨f, true, before, "", none, .imports⟩ (.gap " "))
        (.comment c) = ⟨f.behind .imports (" " ++ c), true, before ++ " " ++ c, "", none,
          .imports⟩ := by
      simp only [ReadState.step, ReadState.pass, ReadState.attach, File.behind, appendComment,
        Piece.text, String.append_assoc]
      rfl
    rw [remarks_cons, List.map_cons, List.map_cons, List.foldl_cons, List.foldl_cons]
    change ((remarks cs).map piece).foldl _ (ReadState.step (ReadState.step _ (.gap " "))
      (.comment c)) = _
    rw [hs, ih, File.behind_behind]
    simp [spell_cons, Lexeme.text, String.append_assoc]

/-! ### One import -/

/-- The text is one comment, up to a line break. -/
def IsComment (s : String) : Prop := ∀ cs, Reads (.comment s) ('\n' :: cs)

/-- Printed on a line of its own, or of a group, the entry is read back. -/
structure ImportSpec.Tidy (s : ImportSpec) : Prop where
  leading : ∀ l ∈ s.leading, IsComment l
  entry : ∃ ets e cs, Entry ets e ∧ s.text = e.text ++ spell (remarks cs) ∧ s.name? = e.name? ∧
    s.path = e.path ∧ (∀ c ∈ cs.dropLast, breaks c = 0) ∧
    ∀ rest, ReadsAll (ets ++ remarks cs) ('\n' :: rest)

lemma item_import {i : Item} {ts us : List Lexeme} {inner : Inner}
    (h : importItem (.word "import" :: ts ++ us) = some (i, us)) :
    item inner (.word "import" :: ts ++ us) = some ((i, true), us) := by
  change (importItem _).map _ = _
  rw [h]
  rfl

lemma importItem_one (h : Entry ets e) (us : List Lexeme) :
    importItem (.word "import" :: (.blank " " :: ets) ++ us) = some (.importOne e, us) := by
  obtain ⟨t, rest, ht, htriv, hd⟩ := h.cons
  have hp : Reader.takes .closed "(" (.blank " " :: (ets ++ us)) =
      some (false, .blank " " :: (ets ++ us)) := by
    have hu : upcoming .closed (.blank " " :: (ets ++ us)) = t :: (rest ++ us) := by
      rw [ht]
      exact upcoming_of_cons htriv _
    have hc : "(".toList = ['('] := rfl
    simp only [Reader.takes, hu, hc, hd]
  have he := importEntry_eq h [.blank " "] (by simp [isTrivia]) us
  rw [importItem, Reader.bind_eq
    (Reader.discard_eq (show Reader.word _ = some ("import", .blank " " :: (ets ++ us)) from rfl)),
    Reader.bind_eq hp]
  simp only [Bool.false_eq_true, ite_false]
  exact (Reader.bind_eq he).trans rfl

/-- What the reader makes of the comments above an import that stands alone. -/
def leadingLines (above : List Lexeme) : List String :=
  ((kept above).map (ReadState.commentLines ∘ trimmed Text.trimEnd)).getD []

theorem section_importOne (f : File) (last : LastItem) {above : List Lexeme}
    (ha : Above (fun c => !Text.isBlank c) above)
    {s : ImportSpec} (hs : s.Tidy) (hgap : breaks gap ≠ 0) :
    Section (spell above ++ "import " ++ s.text ++ "\n") (At f last gap)
      (At { f with imports := f.imports ++ [{ s with leading := leadingLines above }] } .imports
        "\n") := by
  obtain ⟨ets, e, cs, hent, htext, hname, hpath, -, hreads⟩ := hs.entry
  obtain ⟨t, rest, ht, htriv, -⟩ := hent.cons
  have hone : ∀ us,
      ReadsAll (.word "import" :: (.blank " " :: ets ++ remarks cs) ++ [.newline]) us := by
    intro us
    have hall : ReadsAll (ets ++ remarks cs ++ [.newline]) us :=
      readsAll_append.mpr ⟨hreads us, reads_newline us, trivial⟩
    refine ⟨reads_word (by decide +kernel) ?_, isSpaces_one.reads ?_, hall⟩
    · exact isSpaces_one.isIdentPart _
    · rw [ht] at hall ⊢
      exact hall.isSpace_head htriv us
  refine ⟨above ++ (.word "import" :: (.blank " " :: ets ++ remarks cs) ++ [.newline]), ?_,
    fun us => ha.reads_append rfl (hone us), ?_⟩
  · apply String.toList_injective
    simp [toList_spell_eq_chars, htext, hent.text, Lexeme.text]
  · rintro D - x ⟨before, rfl⟩
    refine ⟨above.map piece ++ .item (spell (.word "import" :: .blank " " :: ets)) (.importOne e) ::
      ((remarks cs).map piece ++ [.gap "\n"]), ?_, fun us qs h => ?_⟩
    · have hstep : ReadState.step ⟨f, true, before ++ spell above, gap, kept above, last⟩
          (.item (spell (.word "import" :: .blank " " :: ets)) (.importOne e)) =
          ⟨{ f with imports := f.imports ++ [⟨leadingLines above, e.text, e.name?, e.path⟩] }, true,
            before ++ spell above ++ spell (.word "import" :: .blank " " :: ets), "", none,
            .imports⟩ := rfl
      have hspec : { s with leading := leadingLines above } =
          (⟨leadingLines above, e.text ++ spell (remarks cs), e.name?, e.path⟩ : ImportSpec) := by
        rw [htext, hname, hpath]
      rw [List.foldl_append, foldl_step_above ha (.inr hgap), List.foldl_cons, List.foldl_append,
        hstep, foldl_step_remarks, File.behind_imports, hspec]
      exact ⟨_, rfl⟩
    · have ho := Outlines.item rfl (item_import (importItem_one hent _))
        ((beside_remarks cs).outlines (by simp) h)
      have h' := Outlines.trivia ha.trivia ho
      simpa using h'

/-! ### Groups -/

/-- The parts `ps` of a group, up to its parenthesis. -/
def PartsOf (owed : Bool) (ts us : List Lexeme) (ps : List ImportPart) : Prop :=
  ∀ n, ts.length ≤ n → importParts n owed (ts ++ us) = some (ps, us)

section Parts

variable {owed : Bool} {ps : List ImportPart}

lemma partsOf_close (us : List Lexeme) : PartsOf owed [.mark ')'] us [] := by
  intro n hn
  obtain ⟨n, rfl⟩ : ∃ k, n = k + 1 := ⟨n - 1, by simp at hn; omega⟩
  rw [importParts, Reader.bind_eq (Reader.get_eq _)]
  rfl

lemma PartsOf.blank (s : String) (h : PartsOf owed ts us ps) :
    PartsOf owed (.blank s :: ts) us ps := by
  intro n hn
  obtain ⟨n, rfl⟩ : ∃ k, n = k + 1 := ⟨n - 1, by simp at hn; omega⟩
  rw [importParts, Reader.bind_eq (Reader.get_eq _)]
  exact h n (by simpa using hn)

lemma PartsOf.newline (h : PartsOf false ts us ps) :
    PartsOf owed (.newline :: ts) us (.lineBreak :: ps) := by
  intro n hn
  obtain ⟨n, rfl⟩ : ∃ k, n = k + 1 := ⟨n - 1, by simp at hn; omega⟩
  rw [importParts, Reader.bind_eq (Reader.get_eq _)]
  change (importParts n false >>= fun ps => pure (ImportPart.lineBreak :: ps)) (ts ++ us) = _
  rw [Reader.bind_eq (h n (by simpa using hn))]
  rfl

lemma PartsOf.comment (s : String) (h : PartsOf owed ts us ps) :
    PartsOf owed (.comment s :: ts) us (.comment s :: ps) := by
  intro n hn
  obtain ⟨n, rfl⟩ : ∃ k, n = k + 1 := ⟨n - 1, by simp at hn; omega⟩
  rw [importParts, Reader.bind_eq (Reader.get_eq _)]
  change (importParts n owed >>= fun ps => pure (ImportPart.comment s :: ps)) (ts ++ us) = _
  rw [Reader.bind_eq (h n (by simpa using hn))]
  rfl

lemma PartsOf.entry (he : Entry ets e) (h : PartsOf true ts us ps) :
    PartsOf false (ets ++ ts) us (.entry e :: ps) := by
  intro n hn
  obtain ⟨t, rest, ht, -, -⟩ := he.cons
  obtain ⟨n, rfl⟩ : ∃ k, n = k + 1 := ⟨n - 1, by simp [ht] at hn; omega⟩
  have hr : importParts n true (ts ++ us) = some (ps, us) := h n (by simp [ht] at hn; omega)
  have hent : importPart false (importParts n true) (ets ++ (ts ++ us)) =
      some (.entry e :: ps, us) := by
    have hi := importEntry_eq he [] (by simp) (ts ++ us)
    rw [importPart, Reader.bind_eq (show Reader.check _ _ = some ((), _) from rfl)]
    rw [List.nil_append] at hi
    rw [Reader.bind_eq hi, Reader.bind_eq hr]
    rfl
  rw [List.append_assoc, ← hent, importParts, Reader.bind_eq (Reader.get_eq _)]
  cases he <;> rfl

lemma PartsOf.remarks (cs : List String) (h : PartsOf owed ts us ps) :
    PartsOf owed (remarks cs ++ ts) us (cs.map .comment ++ ps) := by
  induction cs with
  | nil => exact h
  | cons c cs ih => exact (ih.comment c).blank " "

end Parts

/-- Lines of a group that take the reader of the group from `g` to `g'`. -/
def GroupLines (text : String) (g g' : GroupState) : Prop :=
  ∃ ts ps, spell ts = text ∧ (∀ cs, ReadsAll ts cs) ∧ ps.foldl GroupState.step g = g' ∧
    ∀ vs us qs, PartsOf false vs us qs → PartsOf false (ts ++ vs) us (ps ++ qs)

section GroupLines

variable {g g' g'' : GroupState} (imports : List ImportSpec)

lemma GroupLines.refl (g : GroupState) : GroupLines "" g g :=
  ⟨[], [], rfl, fun _ => trivial, rfl, fun _ _ _ h => h⟩

lemma GroupLines.append {s t : String} (h₁ : GroupLines s g g') (h₂ : GroupLines t g' g'') :
    GroupLines (s ++ t) g g'' := by
  obtain ⟨ts, ps, rfl, hr₁, rfl, hp₁⟩ := h₁
  obtain ⟨us, qs, rfl, hr₂, rfl, hp₂⟩ := h₂
  refine ⟨ts ++ us, ps ++ qs, spell_append ts us, fun cs => readsAll_append.mpr ⟨hr₁ _, hr₂ _⟩,
    List.foldl_append, fun vs ws rs h => ?_⟩
  rw [List.append_assoc, List.append_assoc]
  exact hp₁ _ _ _ (hp₂ _ _ _ h)

lemma groupLines_comment {l : String} (hl : IsComment l) (leading : List String) :
    GroupLines (File.importLine l) ⟨imports, leading, false⟩
      ⟨imports, leading ++ [l], false⟩ := by
  refine ⟨[.blank "\t", .comment l, .newline], [.comment l, .lineBreak], ?_, fun cs => ?_, ?_,
    fun vs us qs h => (h.newline.comment l).blank "\t"⟩
  · simp [spell_cons, Lexeme.text, File.importLine, String.append_assoc]
  · refine ⟨isSpaces_tab.reads ?_, hl cs, reads_newline cs, trivial⟩
    intro c hc
    rw [chars_cons, List.append_assoc] at hc
    simp [isSpace, (hl cs).isBlank_head (by simp) (by simp) _ c hc]
  · simp [GroupState.step]

lemma groupLines_comments {ls : List String} (hls : ∀ l ∈ ls, IsComment l)
    (leading : List String) :
    GroupLines (String.join (ls.map File.importLine)) ⟨imports, leading, false⟩
      ⟨imports, leading ++ ls, false⟩ := by
  induction ls generalizing leading with
  | nil => simpa using GroupLines.refl _
  | cons l ls ih =>
    have h := (groupLines_comment imports (hls l (by simp)) leading).append
      (ih (fun m hm => hls m (by simp [hm])) _)
    simpa [String.join_cons] using h

/-- The comments on the line of an entry go with it. -/
lemma foldl_step_comments {cs : List String} (hcs : ∀ c ∈ cs.dropLast, breaks c = 0)
    (s : ImportSpec) :
    ∃ onLine, (cs.map ImportPart.comment).foldl GroupState.step ⟨imports ++ [s], [], true⟩ =
      ⟨imports ++ [{ s with text := s.text ++ spell (remarks cs) }], [], onLine⟩ := by
  induction cs generalizing s with
  | nil => exact ⟨true, by simp [remarks]⟩
  | cons c cs ih =>
    have hm := modify_length imports [] s fun s => { s with text := s.text ++ " " ++ c }
    have hs : GroupState.step ⟨imports ++ [s], [], true⟩ (.comment c) =
        ⟨imports ++ [{ s with text := s.text ++ " " ++ c }], [], breaks c == 0⟩ := by
      simp only [GroupState.step, appendComment, List.length_append, List.length_singleton,
        Nat.add_sub_cancel, hm]
      rfl
    rw [List.map_cons, List.foldl_cons, hs, remarks_cons]
    by_cases hne : cs = []
    · subst hne
      exact ⟨breaks c == 0, by simp [remarks, spell_cons, Lexeme.text, String.append_assoc]⟩
    · have hc : breaks c = 0 := hcs c (by simp [List.dropLast_cons_of_ne_nil hne])
      obtain ⟨onLine, h⟩ := ih (fun d hd => hcs d (by simp [List.dropLast_cons_of_ne_nil hne, hd]))
        { s with text := s.text ++ " " ++ c }
      refine ⟨onLine, ?_⟩
      rw [hc]
      simpa [spell_cons, Lexeme.text, String.append_assoc] using h

lemma groupLines_entry {s : ImportSpec} (hs : s.Tidy) :
    GroupLines (File.importLine s.text) ⟨imports, s.leading, false⟩
      ⟨imports ++ [s], [], false⟩ := by
  obtain ⟨ets, e, cs, hent, htext, hname, hpath, hcs, hreads⟩ := hs.entry
  obtain ⟨t, rest, ht, htriv, -⟩ := hent.cons
  refine ⟨.blank "\t" :: (ets ++ (remarks cs ++ [.newline])),
    .entry e :: (cs.map .comment ++ [.lineBreak]), ?_, fun us => ?_, ?_, fun vs us qs h => ?_⟩
  · apply String.toList_injective
    simp [toList_spell_eq_chars, htext, hent.text, Lexeme.text, File.importLine]
  · have hall : ReadsAll (ets ++ (remarks cs ++ [.newline])) us := by
      rw [← List.append_assoc]
      exact readsAll_append.mpr ⟨hreads us, reads_newline us, trivial⟩
    refine ⟨isSpaces_tab.reads ?_, hall⟩
    rw [ht] at hall ⊢
    exact hall.isSpace_head htriv us
  · obtain ⟨onLine, h⟩ := foldl_step_comments imports hcs
      ⟨s.leading, e.text, e.name?, e.path⟩
    have hspec : s = ⟨s.leading, e.text ++ spell (remarks cs), e.name?, e.path⟩ := by
      rw [← htext, ← hname, ← hpath]
    rw [List.foldl_cons, List.foldl_append]
    have hstep : GroupState.step ⟨imports, s.leading, false⟩ (.entry e) =
        ⟨imports ++ [⟨s.leading, e.text, e.name?, e.path⟩], [], true⟩ := rfl
    rw [hstep, h, ← hspec]
    rfl
  · have h' := (((PartsOf.newline h).remarks cs).entry hent).blank "\t"
    simpa using h'

/-- The lines of an entry in a group. -/
def entryLines (s : ImportSpec) : String :=
  String.join (s.leading.map File.importLine) ++ File.importLine s.text

lemma groupLines_entries {specs : List ImportSpec} (hs : ∀ s ∈ specs, s.Tidy) :
    GroupLines (String.join (specs.map entryLines)) ⟨imports, [], false⟩
      ⟨imports ++ specs, [], false⟩ := by
  induction specs generalizing imports with
  | nil => simpa using GroupLines.refl _
  | cons s specs ih =>
    have h₁ := groupLines_comments imports (hs s (by simp)).leading []
    have h₂ := groupLines_entry imports (hs s (by simp))
    have h₃ := ih (imports ++ [s]) fun t ht => hs t (by simp [ht])
    have h := (h₁.append h₂).append h₃
    simpa [String.join_cons, entryLines] using h

end GroupLines

lemma importItem_group {parts : List ImportPart} (h : PartsOf false (.newline :: ts) us parts) :
    importItem (.word "import" :: (.blank " " :: .mark '(' :: .newline :: ts) ++ us) =
      some (.importGroup parts, us) := by
  have hp : importParts ((.newline :: ts ++ us).length + 1) false (.newline :: ts ++ us) =
      some (parts, us) := h _ (by simp; omega)
  rw [importItem, Reader.bind_eq (Reader.discard_eq (show Reader.word _ =
      some ("import", .blank " " :: .mark '(' :: .newline :: ts ++ us) from rfl)),
    Reader.bind_eq (show Reader.takes .closed "(" _ = some (true, .newline :: ts ++ us) from rfl)]
  simp only [ite_true]
  change Option.bind (importParts ((.newline :: ts ++ us).length + 1) false
    (.newline :: ts ++ us)) _ = _
  rw [hp]
  rfl

/-- **Lines that are read as the parts of a group are read as one**, with the comments above it
and at its end. -/
theorem section_group (f : File) (last : LastItem) {above : List Lexeme}
    (ha : Above (fun c => !Text.isBlank c) above) {lines : String} {imports : List ImportSpec}
    {tail : List String} (hl : GroupLines lines ⟨f.imports, [], false⟩ ⟨imports, tail, false⟩)
    (hf : f.importLeading = "") (hgap : breaks gap ≠ 0) :
    Section (spell above ++ ("import (\n" ++ lines ++ ")") ++ "\n") (At f last gap)
      (At { f with
        importLeading := trimmed Text.trimEnd (spell above)
        imports
        importTail := f.importTail ++ tail } .imports "\n") := by
  obtain ⟨ts, ps, hspell, hreads, hfold, hparts⟩ := hl
  obtain ⟨body, hbody⟩ : ∃ body : List Lexeme,
    body = .blank " " :: .mark '(' :: .newline :: (ts ++ [.mark ')']) := ⟨_, rfl⟩
  have hone : ∀ us, ReadsAll (.word "import" :: body ++ [.newline]) us := by
    intro us
    rw [hbody]
    refine ⟨reads_word (by decide) (isSpaces_one.isIdentPart _), isSpaces_one.reads ?_,
      reads_mark (by rfl) _, reads_newline _, ?_⟩
    · rintro c ⟨rfl⟩
      rfl
    · rw [List.append_eq, readsAll_append, readsAll_append]
      exact ⟨⟨hreads _, reads_mark (by rfl) _, trivial⟩, reads_newline us, trivial⟩
  have hitem : ∀ us, importItem (.word "import" :: body ++ us) =
      some (.importGroup (.lineBreak :: (ps ++ [])), us) := by
    intro us
    rw [hbody]
    exact importItem_group (PartsOf.newline (hparts _ us _ (partsOf_close us)))
  refine ⟨above ++ (.word "import" :: body ++ [.newline]), ?_,
    fun us => ha.reads_append rfl (hone us), ?_⟩
  · have hchars := congrArg String.toList hspell
    rw [toList_spell_eq_chars] at hchars
    apply String.toList_injective
    simp [toList_spell_eq_chars, hbody, hchars, Lexeme.text]
  · rintro D - x ⟨before, rfl⟩
    refine ⟨above.map piece ++ [.item (spell (.word "import" :: body))
      (.importGroup (.lineBreak :: (ps ++ []))), .gap "\n"], ?_, fun us qs h => ?_⟩
    · have hg : (ImportPart.lineBreak :: (ps ++ [])).foldl GroupState.step ⟨f.imports, [], false⟩ =
          ⟨imports, tail, false⟩ := by
        simpa [GroupState.step] using hfold
      have hstep : ReadState.step ⟨f, true, before ++ spell above, gap, kept above, last⟩
          (.item (spell (.word "import" :: body)) (.importGroup (.lineBreak :: (ps ++ [])))) =
          ⟨{ f with
              importLeading := trimmed Text.trimEnd (spell above)
              imports
              importTail := f.importTail ++ tail }, true,
            before ++ spell above ++ spell (.word "import" :: body), "", none, .imports⟩ := by
        simp only [ReadState.step, ReadState.addItem, ReadState.addImports, hg, hf, kept]
        by_cases hn : above = []
        · subst hn
          rfl
        · simp only [if_neg hn]
          rfl
      rw [List.foldl_append, foldl_step_above ha (.inr hgap), List.foldl_cons, hstep]
      exact ⟨_, rfl⟩
    · have ho := Outlines.item rfl (item_import (hitem _)) (Outlines.newline h)
      have h' := Outlines.trivia ha.trivia ho
      simpa using h'

/-- **A printed group is read back**, with the comments above it, below its entries and at its
end. -/
theorem section_importGroup (f : File) (last : LastItem) {above : List Lexeme}
    (ha : Above (fun c => !Text.isBlank c) above) {specs : List ImportSpec}
    (hs : ∀ s ∈ specs, s.Tidy) {tail : List String} (ht : ∀ l ∈ tail, IsComment l)
    (hf : f.importLeading = "") (hgap : breaks gap ≠ 0) :
    Section (spell above ++ File.importBlock specs tail ++ "\n") (At f last gap)
      (At { f with
        importLeading := trimmed Text.trimEnd (spell above)
        imports := f.imports ++ specs
        importTail := f.importTail ++ tail } .imports "\n") := by
  have hlines := (groupLines_entries f.imports hs).append
    (groupLines_comments (f.imports ++ specs) ht [])
  have hblock : File.importBlock specs tail = "import (\n" ++ (String.join (specs.map entryLines) ++
      String.join (tail.map File.importLine)) ++ ")" := by
    simp only [File.importBlock, String.append_assoc]
    rfl
  rw [hblock]
  exact section_group f last ha hlines hf hgap

end SchemaGo.Go
