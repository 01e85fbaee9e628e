import Mathlib
import SchemaGo.Proofs.Go.Edit
import SchemaGo.Proofs.Go.Outline
import SchemaGo.Proofs.Go.Reader

/-!
The sections of a source, each from the start of a line to the end of one, with what reading
them does to the file at hand.
-/

namespace SchemaGo.Go

open Grammar Lexeme

variable {ts us : List Lexeme} {f : File} {last : LastItem} {gap before : String} {seen : Bool}

lemma breaks_append (s t : String) : breaks (s ++ t) = breaks s + breaks t := by
  simp [breaks]

@[simp] lemma breaks_empty : breaks "" = 0 := rfl

/-! ### Trivia and the state of the reader -/

/-- Comments above an item pile up. -/
lemma foldl_step_pending (ts : List Lexeme) (p : String) :
    (ts.map piece).foldl ReadState.step ⟨f, seen, before, gap, some p, last⟩ =
      ⟨f, seen, before ++ spell ts, gap, some (p ++ spell ts), last⟩ := by
  induction ts generalizing p before with
  | nil => simp
  | cons t ts ih =>
    rw [List.map_cons, List.foldl_cons, spell_cons, ← String.append_assoc, ← String.append_assoc,
      ← ih]
    cases t <;> rfl

/-- Lines of comments, from the first comment on, up to a character `c` with `stop c`. -/
structure Above (stop : Char → Bool) (ts : List Lexeme) : Prop where
  trivia : ∀ t ∈ ts, isTrivia t = true
  first : ∀ t ∈ ts.head?, ∃ s, t = .comment s
  reads : ∀ c cs, stop c = true → ReadsAll ts (c :: cs)

/-- What the reader keeps of comments above an item. -/
def kept (ts : List Lexeme) : Option String := if ts = [] then none else some (spell ts)

@[simp] lemma kept_getD (ts : List Lexeme) : (kept ts).getD "" = spell ts := by
  unfold kept
  split <;> simp_all

lemma foldl_step_above {stop : Char → Bool} (hts : Above stop ts)
    (hgap : last = .nothing ∨ breaks gap ≠ 0) :
    (ts.map piece).foldl ReadState.step ⟨f, seen, before, gap, none, last⟩ =
      ⟨f, seen, before ++ spell ts, gap, kept ts, last⟩ := by
  cases ts with
  | nil => simp [kept]
  | cons t ts =>
    obtain ⟨s, rfl⟩ := hts.first t (by simp)
    have hs : ReadState.step ⟨f, seen, before, gap, none, last⟩ (.comment s) =
        ⟨f, seen, before ++ s, gap, some s, last⟩ := by
      rcases hgap with rfl | hgap <;> simp [ReadState.step, Piece.text, *]
    rw [List.map_cons, piece, List.foldl_cons, hs, foldl_step_pending]
    simp [kept, spell_cons, String.append_assoc, Lexeme.text]

/-! ### Behind an item -/

/-- The file with `text` behind the item that has been read last. -/
def File.behind (f : File) (last : LastItem) (text : String) : File :=
  match last with
  | .nothing => f
  | .package => { f with packageLine := f.packageLine ++ text }
  | .imports =>
    { f with
      imports := f.imports.modify (f.imports.length - 1) fun s => { s with text := s.text ++ text } }
  | .decl =>
    { f with
      decls := f.decls.modify (f.decls.length - 1) fun d => { d with body := d.body ++ text } }

lemma File.behind_behind (f : File) (last : LastItem) (s t : String) :
    (f.behind last s).behind last t = f.behind last (s ++ t) := by
  cases last <;>
    simp [File.behind, String.append_assoc, List.modify_modify_eq, Function.comp_def]

lemma File.behind_empty (f : File) (last : LastItem) : f.behind last "" = f := by
  cases last <;> simp [File.behind]
  · exact congrArg (fun l => { f with imports := l }) (List.modify_id _ _)
  · exact congrArg (fun l => { f with decls := l }) (List.modify_id _ _)

lemma breaks_eq_zero {s : String} : breaks s = 0 ↔ '\n' ∉ s.toList := by
  simp [breaks, List.count_eq_zero]

/-- Blanks and terminators add to the gap; the comment behind them takes it along. -/
lemma foldl_step_beside (hl : last = .package ∨ last = .decl)
    (hts : ∀ t ∈ ts, t ≠ .newline ∧ (isTrivia t = true ∨ isTerminator t = true))
    (hb : ∀ s, .blank s ∈ ts → breaks s = 0) (hlast : ∃ s, ts.getLast? = some (.comment s))
    (hgap : breaks gap = 0) :
    (ts.map piece).foldl ReadState.step ⟨f, true, before, gap, none, last⟩ =
      ⟨f.behind last (gap ++ spell ts), true, before ++ spell ts, "", none, last⟩ := by
  induction ts generalizing f gap before with
  | nil => simp at hlast
  | cons t ts ih =>
    have hpass : (∃ s, t = .comment s) ∨
        ts ≠ [] ∧ breaks t.text = 0 ∧ piece t = .gap t.text := by
      obtain ⟨hn, hk⟩ := hts t (by simp)
      obtain ⟨s, hs⟩ := hlast
      have hne : (∀ u, t ≠ .comment u) → ts ≠ [] := by
        rintro hc rfl
        exact hc s (by simpa using hs)
      rcases hk with hk | hk
      · cases t with
        | comment u => exact .inl ⟨u, rfl⟩
        | blank u => exact .inr ⟨hne fun _ => Lexeme.noConfusion, hb u (by simp), rfl⟩
        | newline => exact absurd rfl hn
        | word _ | number _ | string _ | rune _ | mark _ => simp [isTrivia] at hk
      · simp only [isTerminator, Bool.or_eq_true, beq_iff_eq] at hk
        rcases hk with rfl | rfl <;> exact .inr ⟨hne fun _ => Lexeme.noConfusion, rfl, rfl⟩
    have hrest : ts ≠ [] → ∃ s, ts.getLast? = some (.comment s) := by
      intro hne
      obtain ⟨s, hs⟩ := hlast
      exact ⟨s, by rwa [List.getLast?_cons_of_ne_nil hne] at hs⟩
    have ih := fun f gap before hne => @ih f gap before
      (fun u hu => hts u (List.mem_cons_of_mem t hu))
      (fun s hs => hb s (List.mem_cons_of_mem t hs)) (hrest hne)
    rcases hpass with ⟨s, rfl⟩ | ⟨hne, hz, hp⟩
    · have hs : ReadState.step ⟨f, true, before, gap, none, last⟩ (.comment s) =
          ⟨f.behind last (gap ++ s), true, before ++ s, "", none, last⟩ := by
        rcases hl with rfl | rfl <;>
          simp [ReadState.step, ReadState.attach, File.behind, Piece.text, hgap]
      rw [List.map_cons, List.foldl_cons, piece, hs]
      by_cases hne : ts = []
      · subst hne
        simp [spell_cons, Lexeme.text]
      · rw [ih _ _ _ hne rfl, File.behind_behind]
        simp [spell_cons, Lexeme.text, String.append_assoc]
    · have hs : ReadState.step ⟨f, true, before, gap, none, last⟩ (.gap t.text) =
          ⟨f, true, before ++ t.text, gap ++ t.text, none, last⟩ := rfl
      rw [List.map_cons, List.foldl_cons, hp, hs, ih _ _ _ hne (by rw [breaks_append]; omega)]
      simp [spell_cons, String.append_assoc]

lemma Beside.foldl_step (hb : Beside ts) (hr : ∀ s, .blank s ∈ ts → breaks s = 0)
    (hl : last = .package ∨ last = .decl) :
    (ts.map piece).foldl ReadState.step ⟨f, true, before, "", none, last⟩ =
      ⟨f.behind last (spell ts), true, before ++ spell ts, "", none, last⟩ := by
  by_cases hne : ts = []
  · subst hne
    simp [File.behind_empty]
  · have hlast : ∃ s, ts.getLast? = some (.comment s) := by
      obtain ⟨s, hs⟩ := hb.last _ (List.getLast?_eq_getLast_of_ne_nil hne)
      exact ⟨s, by rw [List.getLast?_eq_getLast_of_ne_nil hne, hs]⟩
    exact (foldl_step_beside hl hb.kinds hr hlast breaks_empty).trans (by rw [String.empty_append])

/-! ### Sections -/

/-- Whatever follows, the lexemes `ts` take the reader from a state of `P` to one of `Q`. -/
def Leads (ts : List Lexeme) (P Q : ReadState → Prop) : Prop :=
  ∀ D, ts.length < D → ∀ s, P s → ∃ ps, Q (ps.foldl ReadState.step s) ∧
    ∀ us qs, Outlines (upTo D) .item us qs → Outlines (upTo D) .item (ts ++ us) (ps ++ qs)

/-- Whole lines that take the reader from a state of `P` to one of `Q`. -/
def Section (text : String) (P Q : ReadState → Prop) : Prop :=
  ∃ ts, spell ts = text ∧ (∀ cs, ReadsAll ts cs) ∧ Leads ts P Q

section Compose

variable {P Q R : ReadState → Prop} {s t : String}

lemma Section.append (h₁ : Section s P Q) (h₂ : Section t Q R) : Section (s ++ t) P R := by
  obtain ⟨ts, rfl, hr₁, hl₁⟩ := h₁
  obtain ⟨us, rfl, hr₂, hl₂⟩ := h₂
  refine ⟨ts ++ us, spell_append ts us, fun cs => readsAll_append.mpr ⟨hr₁ _, hr₂ _⟩, ?_⟩
  intro D hD s hs
  rw [List.length_append] at hD
  obtain ⟨ps, hQ, ho₁⟩ := hl₁ D (by omega) s hs
  obtain ⟨qs, hR, ho₂⟩ := hl₂ D (by omega) _ hQ
  refine ⟨ps ++ qs, by rwa [List.foldl_append], fun vs rs h => ?_⟩
  rw [List.append_assoc, List.append_assoc]
  exact ho₁ _ _ (ho₂ _ _ h)

lemma Section.refl (P : ReadState → Prop) : Section "" P P :=
  ⟨[], rfl, fun _ => trivial, fun _ _ _ hs => ⟨[], hs, fun _ _ h => h⟩⟩

lemma Section.mono {P' Q' : ReadState → Prop} (h : Section s P Q) (hP : ∀ x, P' x → P x)
    (hQ : ∀ x, Q x → Q' x) : Section s P' Q' := by
  obtain ⟨ts, hs, hr, hl⟩ := h
  refine ⟨ts, hs, hr, fun D hD s hs => ?_⟩
  obtain ⟨ps, hp, ho⟩ := hl D hD s (hP s hs)
  exact ⟨ps, hQ _ hp, ho⟩

end Compose

/-- Behind an item and the blank text `gap`, with `f` read so far. -/
def At (f : File) (last : LastItem) (gap : String) (s : ReadState) : Prop :=
  ∃ before, s = ⟨f, true, before, gap, none, last⟩

lemma section_blankLine : Section "\n" (At f last "\n") (At f last "\n\n") := by
  refine ⟨[.newline], rfl, fun cs => ⟨reads_newline _, trivial⟩, ?_⟩
  rintro D - s ⟨before, rfl⟩
  exact ⟨[.gap "\n"], ⟨_, rfl⟩, fun us qs h => h.newline⟩

lemma File.behind_decl (f : File) (d : Decl) (text : String) :
    { f with decls := f.decls ++ [d] }.behind .decl text =
      { f with decls := f.decls ++ [{ d with body := d.body ++ text }] } := by
  have h := modify_length f.decls [] d fun d => { d with body := d.body ++ text }
  simp only [File.behind, List.length_append, List.length_singleton, Nat.add_sub_cancel]
  exact congrArg (fun l => { f with decls := l }) h

/-- Comments are read in front of a lexeme that is no blank. -/
lemma Above.reads_append (ha : Above (fun c => !Text.isBlank c) ts) {t : Lexeme}
    (ht : isTrivia t = false) {cs : List Char} (h : ReadsAll (t :: us) cs) :
    ReadsAll (ts ++ t :: us) cs := by
  obtain ⟨c, rest, hc, hb⟩ := h.1.head_not_blank (by rintro s rfl; simp [isTrivia] at ht)
    (by rintro rfl; simp [isTrivia] at ht)
  refine readsAll_append.mpr ⟨?_, h⟩
  rw [chars_cons, hc]
  exact ha.reads c _ (by simp [hb])

/-- **A declaration that is read on its own is read in its place**, with the comments above
it. -/
theorem section_decl (f : File) (last : LastItem) (gap : String) {above : List Lexeme}
    (ha : Above (fun c => !Text.isBlank c) above)
    {body : String} {shape : Shape} {qualifiers : List String}
    (hb : ReadsAs body shape qualifiers) (hgap : breaks gap ≠ 0) :
    Section (spell above ++ body ++ "\n") (At f last gap)
      (At { f with decls := f.decls ++
        [⟨spell above, body, breaks gap ≥ 2, shape, qualifiers.eraseDups, false⟩] } .decl
        "\n") := by
  obtain ⟨t, its, beside, final, ht, rfl, hbeside, hreads, hitem⟩ := hb
  have hall : ∀ cs, ReadsAll (t :: its ++ beside ++ [.newline]) cs := fun cs =>
    readsAll_append.mpr ⟨hreads cs, reads_newline cs, trivial⟩
  refine ⟨above ++ (t :: its ++ beside ++ [.newline]), ?_,
    fun cs => ha.reads_append ht (hall cs), ?_⟩
  · rw [spell_append, spell_append, ← String.append_assoc]
    rfl
  · rintro D hD s ⟨before, rfl⟩
    have hlen : (t :: its).length < D := by
      simp only [List.length_append, List.length_cons] at hD ⊢
      omega
    refine ⟨above.map piece ++ .item (spell (t :: its)) (.decl shape qualifiers) ::
      (beside.map piece ++ [.gap "\n"]),
      ⟨before ++ spell above ++ spell (t :: its) ++ spell beside ++ "\n", ?_⟩, fun us qs h => ?_⟩
    · have hno : ∀ s, .blank s ∈ beside → breaks s = 0 := fun s hs =>
        breaks_eq_zero.mpr ((readsAll_append.mp (hreads [])).2.noBreak hs)
      rw [List.foldl_append, foldl_step_above ha (.inr hgap), List.foldl_cons, List.foldl_append]
      have hs : ReadState.step ⟨f, true, before ++ spell above, gap, kept above, last⟩
          (.item (spell (t :: its)) (.decl shape qualifiers)) =
          ⟨{ f with decls := f.decls ++ [⟨spell above, spell (t :: its), breaks gap ≥ 2, shape,
            qualifiers.eraseDups, false⟩] }, true, before ++ spell above ++ spell (t :: its), "",
            none, .decl⟩ := by
        simp [ReadState.step, ReadState.addItem, ReadState.addDecl, Piece.text]
      rw [hs, hbeside.foldl_step hno (.inr rfl), File.behind_decl, ← spell_append]
      rfl
    · have hd : (if final then Due.terminatorOrEnd else Due.terminator) ≠ Due.item := by
        cases final <;> simp
      have ho := Outlines.item ht (hitem D us hlen) (hbeside.outlines hd h)
      have h' := Outlines.trivia ha.trivia ho
      simpa using h'

/-- **Comments at the end of a source are its trailer.** -/
theorem section_trailer (f : File) (last : LastItem) (ha : Above (· == '\n') ts) (hne : ts ≠ [])
    (hgap : breaks gap ≠ 0) :
    Section (spell ts ++ "\n") (At f last gap)
      (fun s => s.file = f ∧ s.seenPackage = true ∧ s.pending = some (spell ts ++ "\n")) := by
  refine ⟨ts ++ [.newline], by rw [spell_append]; rfl, fun cs => ?_, ?_⟩
  · exact readsAll_append.mpr ⟨ha.reads '\n' _ rfl, reads_newline cs, trivial⟩
  · rintro D - s ⟨before, rfl⟩
    refine ⟨ts.map piece ++ [.gap "\n"], ?_, fun us qs h => ?_⟩
    · rw [List.foldl_append, foldl_step_above ha (.inr hgap), kept, if_neg hne]
      exact ⟨rfl, rfl, rfl⟩
    · have h' := Outlines.trivia ha.trivia h.newline
      simpa using h'

/-! ### The package clause -/

/-- The line is read as a package clause, whatever stands on the lines below. -/
def PackageReads (line : String) : Prop :=
  ∃ mid name beside, line = spell (.word "package" :: (mid ++ [.word name]) ++ beside) ∧
    (∀ t ∈ mid, isTrivia t = true) ∧ Beside beside ∧
    ∀ cs, ReadsAll (.word "package" :: (mid ++ [.word name]) ++ beside) ('\n' :: cs)

/-- Before any item, with `header` read so far. -/
def Start (header : String) (s : ReadState) : Prop :=
  ∃ gap pending, s = ⟨{}, false, header, gap, pending, .nothing⟩

lemma start_foldl {header : String} {s : ReadState} (hs : Start header s)
    (hts : ∀ t ∈ ts, isTrivia t = true) :
    Start (header ++ spell ts) ((ts.map piece).foldl ReadState.step s) := by
  induction ts generalizing header s with
  | nil => simpa using hs
  | cons t ts ih =>
    have hstep : Start (header ++ t.text) (ReadState.step s (piece t)) := by
      obtain ⟨gap, pending, rfl⟩ := hs
      cases pending <;> cases t <;> exact ⟨_, _, rfl⟩
    have h := ih hstep fun u hu => hts u (by simp [hu])
    rwa [String.append_assoc, ← spell_cons] at h

lemma item_package {mid : List Lexeme} (hm : ∀ t ∈ mid, isTrivia t = true) (inner : Inner)
    (name : String) (us : List Lexeme) :
    item inner (.word "package" :: (mid ++ [.word name]) ++ us) = some ((.package, true), us) := by
  have hw : Reader.word (mid ++ .word name :: us) = some (name, us) := word_trivia hm name us
  have hp : packageItem (.word "package" :: (mid ++ [.word name]) ++ us) = some (.package, us) := by
    have h₁ : Reader.word (.word "package" :: (mid ++ [.word name]) ++ us) =
        some ("package", mid ++ .word name :: us) := by
      simp [Reader.word, next]
    rw [packageItem, Reader.bind_eq (Reader.discard_eq h₁), Reader.bind_eq (Reader.discard_eq hw)]
    rfl
  change (packageItem _).map _ = _
  rw [hp]
  rfl

theorem section_package (header : String) {line : String} (h : PackageReads line) :
    ∃ package, Section (line ++ "\n") (Start header)
      (At { header := trimmed Text.trimStart header, packageLine := line, package } .package
        "\n") := by
  obtain ⟨mid, name, beside, rfl, hm, hbeside, hreads⟩ := h
  refine ⟨ReadState.packageName (spell (.word "package" :: (mid ++ [.word name]))),
    .word "package" :: (mid ++ [.word name]) ++ beside ++ [.newline], ?_, fun cs => ?_, ?_⟩
  · rw [spell_append _ [.newline]]
    rfl
  · exact readsAll_append.mpr ⟨hreads cs, reads_newline cs, trivial⟩
  · rintro D hD s ⟨gap, pending, rfl⟩
    refine ⟨.item (spell (.word "package" :: (mid ++ [.word name]))) .package ::
      (beside.map piece ++ [.gap "\n"]), ?_, fun us qs h => ?_⟩
    · have hno : ∀ s, .blank s ∈ beside → breaks s = 0 := fun s hs =>
        breaks_eq_zero.mpr ((readsAll_append.mp (hreads [])).2.noBreak hs)
      have hs : ReadState.step ⟨{}, false, header, gap, pending, .nothing⟩
          (.item (spell (.word "package" :: (mid ++ [.word name]))) .package) =
          ⟨{ header := trimmed Text.trimStart header
             packageLine := spell (.word "package" :: (mid ++ [.word name]))
             package := ReadState.packageName (spell (.word "package" :: (mid ++ [.word name]))) },
            true, header ++ spell (.word "package" :: (mid ++ [.word name])), "", none,
            .package⟩ := rfl
      rw [List.foldl_cons, List.foldl_append, hs, hbeside.foldl_step hno (.inl rfl), spell_append]
      exact ⟨_, rfl⟩
    · have ho := Outlines.item rfl (item_package hm (upTo D) name _)
        (hbeside.outlines (by simp) h)
      simpa using ho

end SchemaGo.Go
