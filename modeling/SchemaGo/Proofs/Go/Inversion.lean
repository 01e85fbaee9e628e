import Mathlib
import SchemaGo.Proofs.Go.Consumes
import SchemaGo.Proofs.Go.Outline

/-!
What stands in front of a source on which a reader succeeds: the lexemes that it takes, apart from
the white space and the comments that it passes over.
-/

namespace SchemaGo.Go.Grammar

open Reader Lexeme

variable {α β : Type} {tail : Tail} {ts us vs : List Lexeme} {t : Lexeme} {a : α} {w : String}

/-! ### Lexemes that count -/

/-- All is white space or comments. -/
def Blank (ts : List Lexeme) : Prop := ∀ t ∈ ts, isTrivia t = true

/-- The lexemes without white space and comments. -/
def counting (ts : List Lexeme) : List Lexeme := ts.filter fun t => !isTrivia t

@[simp] lemma blank_nil : Blank [] := by simp [Blank]

@[simp] lemma blank_cons : Blank (t :: ts) ↔ isTrivia t = true ∧ Blank ts := by simp [Blank]

@[simp] lemma blank_append : Blank (ts ++ us) ↔ Blank ts ∧ Blank us := by
  simp [Blank, or_imp, forall_and]

@[simp] lemma counting_nil : counting [] = [] := rfl

@[simp] lemma counting_append (ts us : List Lexeme) :
    counting (ts ++ us) = counting ts ++ counting us := List.filter_append ..

@[simp] lemma counting_word (w : String) (ts : List Lexeme) :
    counting (.word w :: ts) = .word w :: counting ts := rfl

@[simp] lemma counting_mark (c : Char) (ts : List Lexeme) :
    counting (.mark c :: ts) = .mark c :: counting ts := rfl

@[simp] lemma counting_eq_nil : counting ts = [] ↔ Blank ts := by
  simp [counting, Blank]

/-! ### Single lexemes -/

lemma next_inv (h : next tail ts = some (t, us)) :
    isTrivia t = false ∧ ∃ lead, Blank lead ∧ ts = lead ++ t :: us := by
  fun_induction next tail ts with
  | case1 => simp at h
  | case2 s ts ih | case3 s ts ih =>
    obtain ⟨ht, lead, hl, rfl⟩ := ih h
    exact ⟨ht, _ :: lead, by simp [hl, isTrivia], rfl⟩
  | case4 ts _ ih =>
    obtain ⟨ht, lead, hl, rfl⟩ := ih h
    exact ⟨ht, _ :: lead, by simp [hl, isTrivia], rfl⟩
  | case5 => simp at h
  | case6 => simp at h
  | case7 => cases h; exact ⟨rfl, [], by simp⟩
  | case8 t ts h₁ h₂ h₃ h₄ =>
    cases h
    refine ⟨?_, [], by simp⟩
    cases t with
    | blank s => exact absurd rfl (h₁ s)
    | comment s => exact absurd rfl (h₂ s)
    | newline => exact absurd rfl h₃
    | word _ | number _ | string _ | rune _ | mark _ => rfl

/-- What comes next on the line is what comes next. -/
lemma next_closed_eq (h : next tail ts = some (t, us)) : next .closed ts = some (t, us) := by
  fun_induction next tail ts with
  | case1 => simp at h
  | case2 s ts ih | case3 s ts ih => exact ih h
  | case4 ts _ ih => exact ih h
  | case5 => simp at h
  | case6 => simp at h
  | case7 => cases h; rfl
  | case8 t ts h₁ h₂ h₃ h₄ => cases h; cases t <;> simp_all [next]

lemma blank_of_next_eq_none (h : next .closed ts = none) : Blank ts := by
  fun_induction next .closed ts with
  | case1 => simp
  | case2 s ts ih | case3 s ts ih => simp [isTrivia, ih h]
  | case4 ts _ ih => simp [isTrivia, ih h]
  | case5 ts hn => exact absurd rfl hn
  | case6 _ _ hw => simp at hw
  | case7 => simp at h
  | case8 => simp at h

lemma upcoming_closed_inv (ts : List Lexeme) :
    (∃ lead, Blank lead ∧ ts = lead ++ upcoming .closed ts) ∧
      ∀ t ∈ (upcoming .closed ts).head?, isTrivia t = false := by
  unfold upcoming
  split
  · next hn =>
    obtain ⟨ht, hlead⟩ := next_inv hn
    exact ⟨hlead, by simpa using ht⟩
  · next hn => exact ⟨⟨ts, blank_of_next_eq_none hn, by simp⟩, by simp⟩

lemma upcoming_inv (h : upcoming tail ts ≠ []) :
    ∃ lead, Blank lead ∧ ts = lead ++ upcoming tail ts := by
  unfold upcoming at h ⊢
  split at h
  · next hn =>
    obtain ⟨-, lead, hl, hts⟩ := next_inv hn
    exact ⟨lead, hl, hts⟩
  · exact absurd rfl h

lemma dropMarks_inv {c : Char} (h : dropMarks [c] (upcoming tail ts) = some us) :
    ∃ lead, Blank lead ∧ ts = lead ++ .mark c :: us := by
  have hu : upcoming tail ts = .mark c :: us := by simpa using dropMarks_eq_some h
  have hne : upcoming tail ts ≠ [] := by simp [hu]
  obtain ⟨lead, hl, hts⟩ := upcoming_inv hne
  exact ⟨lead, hl, hu ▸ hts⟩

namespace Reader

lemma bind_inv {r : Reader α} {k : α → Reader β} {b : β} (h : (r >>= k) ts = some (b, vs)) :
    ∃ a us, r ts = some (a, us) ∧ k a us = some (b, vs) := by
  obtain ⟨⟨a, us⟩, hr, hk⟩ := Option.bind_eq_some_iff.mp h
  exact ⟨a, us, hr, hk⟩

lemma discard_inv {r : Reader α} {u : Unit} (h : (discard r) ts = some (u, us)) :
    ∃ a, r ts = some (a, us) := by
  obtain ⟨⟨a, us⟩, hr, hk⟩ := Option.bind_eq_some_iff.mp h
  cases hk
  exact ⟨a, hr⟩

lemma pure_inv {b : α} (h : (pure a : Reader α) ts = some (b, us)) : b = a ∧ us = ts := by
  cases h
  exact ⟨rfl, rfl⟩

lemma check_inv {b : Bool} {u : Unit} (h : check b ts = some (u, us)) : b = true ∧ us = ts := by
  unfold check at h
  split at h <;> cases h
  next hb => exact ⟨hb, rfl⟩

lemma sees_inv {op : String} {b : Bool} (h : sees tail op ts = some (b, us)) : us = ts := by
  cases h
  rfl

lemma peek_inv {o : Option Lexeme} (h : peek tail ts = some (o, us)) : us = ts := by
  cases h
  rfl

lemma word_inv (h : word ts = some (w, us)) : ∃ lead, Blank lead ∧ ts = lead ++ .word w :: us := by
  unfold word at h
  split at h
  · next hn =>
    cases h
    exact (next_inv hn).2
  · cases h

lemma advance_inv (h : advance ts = some (t, us)) :
    isTrivia t = false ∧ ∃ lead, Blank lead ∧ ts = lead ++ t :: us :=
  next_inv h

lemma mark_inv {c : Char} {u : Unit} (h : mark (String.singleton c) ts = some (u, us)) :
    ∃ lead, Blank lead ∧ ts = lead ++ .mark c :: us := by
  obtain ⟨us, hd, he⟩ := Option.map_eq_some_iff.mp h
  cases he
  exact dropMarks_inv (by simpa using hd)

lemma takes_inv {c : Char} {b : Bool} (h : takes tail (String.singleton c) ts = some (b, us)) :
    if b then ∃ lead, Blank lead ∧ ts = lead ++ .mark c :: us else us = ts := by
  unfold takes at h
  split at h
  · next hd =>
    cases h
    exact dropMarks_inv (by simpa using hd)
  · cases h
    rfl

lemma takesWord_inv {b : Bool} (h : takesWord tail w ts = some (b, us)) :
    if b then ∃ lead, Blank lead ∧ ts = lead ++ .word w :: us else us = ts := by
  unfold takesWord at h
  split at h
  · next hn =>
    split at h <;> cases h
    · next hw => exact hw ▸ (next_inv hn).2
    · rfl
  · cases h
    rfl

lemma dropWhile_inv {p : Lexeme → Bool} (h : ts.dropWhile p = t :: us) :
    ∃ gap, (∀ u ∈ gap, p u = true) ∧ ts = gap ++ t :: us :=
  ⟨ts.takeWhile p, fun _ => List.mem_takeWhile_imp, by rw [← h, List.takeWhile_append_dropWhile]⟩

/-- Blanks and comments, and what ends a line behind them. -/
def EndsLine (gap : List Lexeme) (t : Lexeme) : Prop :=
  Blank gap ∧ .newline ∉ gap ∧ (t = .newline ∨ isTerminator t = true)

lemma terminator?_inv {b : Bool} (h : terminator? ts = some (b, us)) :
    if b then ∃ gap t, EndsLine gap t ∧ ts = gap ++ t :: us else us = ts := by
  unfold terminator? at h
  split at h
  · next hd =>
    cases h
    obtain ⟨gap, hgap, hts⟩ := dropWhile_inv hd
    refine ⟨gap, .newline, ⟨fun t ht => ?_, fun hn => ?_, .inl rfl⟩, hts⟩
    · have := hgap t ht
      cases t <;> simp_all [isTrivia]
    · simpa using hgap _ hn
  · next c rest hd =>
    obtain ⟨gap, hgap, hts⟩ := dropWhile_inv hd
    split at h <;> cases h
    · next hc =>
      refine ⟨gap, .mark c, ⟨fun t ht => ?_, fun hn => ?_, .inr ?_⟩, hts⟩
      · have := hgap t ht
        cases t <;> simp_all [isTrivia]
      · simpa using hgap _ hn
      · simpa [isTerminator] using hc
    · rfl
  · cases h
    rfl

/-- The text is that of the lexemes from the first one on that counts. -/
lemma spelled_inv {r : Reader α} [Consumes r] {text : String}
    (h : spelled r ts = some ((a, text), us)) :
    ∃ lead its, Blank lead ∧ ts = lead ++ (its ++ us) ∧ r (its ++ us) = some (a, us) ∧
      text = spell its ∧ ∀ t ∈ its.head?, isTrivia t = false := by
  obtain ⟨⟨b, vs⟩, hr, he⟩ := Option.bind_eq_some_iff.mp h
  cases he
  obtain ⟨⟨lead, hl, hts⟩, hhead⟩ := upcoming_closed_inv ts
  obtain ⟨its, hits⟩ := Consumes.suffix hr
  refine ⟨lead, its, hl, hits ▸ hts, hits ▸ hr, ?_, ?_⟩
  · rw [← hits, List.take_left' (by simp)]
  · intro t ht
    refine hhead t ?_
    rw [← hits, List.head?_append, Option.mem_def.mp ht]
    rfl

/-! ### Repetitions -/

/-- Run on `ts` again and again, `r` reads `as` and leaves over `us`. -/
inductive Runs (r : Reader (Option α)) : List Lexeme → List α → List Lexeme → Prop
  | enough {ts : List Lexeme} : Runs r ts [] ts
  | stop {ts us : List Lexeme} : r ts = some (none, us) → Runs r ts [] us
  | step {ts us vs : List Lexeme} {a : α} {as : List α} :
      r ts = some (some a, us) → Runs r us as vs → Runs r ts (a :: as) vs

lemma many_inv {r : Reader (Option α)} {as : List α} (h : many r ts = some (as, us)) :
    Runs r ts as us := by
  have key : ∀ n ts as, manyUpTo r n ts = some (as, us) → Runs r ts as us := by
    intro n
    induction n with
    | zero =>
      intro ts as h
      obtain ⟨rfl, rfl⟩ := pure_inv h
      exact .enough
    | succ n ih =>
      intro ts as h
      obtain ⟨o, vs, ho, h⟩ := bind_inv h
      cases o with
      | none =>
        obtain ⟨rfl, rfl⟩ := pure_inv h
        exact .stop ho
      | some a =>
        obtain ⟨bs, ws, hbs, h⟩ := bind_inv h
        obtain ⟨rfl, rfl⟩ := pure_inv h
        exact .step ho (ih vs bs hbs)
  exact key _ ts as h

/-- Names with commas between them. -/
lemma names_inv {names : List String} (h : sepList .closed "," word ts = some (names, us)) :
    ∃ ns, ts = ns ++ us ∧ names ≠ [] ∧
      counting ns = (names.map Lexeme.word).intersperse (.mark ',') := by
  obtain ⟨first, vs, hfirst, h₁⟩ := bind_inv h
  obtain ⟨others, ws, hothers, h₂⟩ := bind_inv h₁
  obtain ⟨rfl, rfl⟩ := pure_inv h₂
  obtain ⟨lead, hl, rfl⟩ := word_inv hfirst
  have hruns := many_inv hothers
  clear hothers hfirst h h₁ h₂
  obtain ⟨ns, hns, hcount⟩ : ∃ ns, vs = ns ++ us ∧
      counting ns = others.flatMap fun n => [.mark ',', .word n] := by
    induction hruns with
    | enough => exact ⟨[], rfl, rfl⟩
    | stop h =>
      obtain ⟨b, xs, hb, h₁⟩ := bind_inv h
      have hxs := takes_inv (c := ',') hb
      split at h₁
      · obtain ⟨w, ys, -, h₂⟩ := bind_inv h₁
        cases (pure_inv h₂).1
      · obtain ⟨-, rfl⟩ := pure_inv h₁
        exact ⟨[], by simp_all, rfl⟩
    | @step _ _ _ n _ h _ ih =>
      obtain ⟨ns, rfl, hcount⟩ := ih
      obtain ⟨b, xs, hb, h₁⟩ := bind_inv h
      have hxs := takes_inv (c := ',') hb
      split at h₁
      · next hbt =>
        rw [if_pos hbt] at hxs
        obtain ⟨gap, hgap, rfl⟩ := hxs
        obtain ⟨w, ys, hw, h₂⟩ := bind_inv h₁
        obtain ⟨he, rfl⟩ := pure_inv h₂
        cases he
        obtain ⟨lead, hl, rfl⟩ := word_inv hw
        refine ⟨gap ++ .mark ',' :: (lead ++ .word n :: ns), by simp, ?_⟩
        simp [counting_eq_nil.mpr hgap, counting_eq_nil.mpr hl, hcount]
      · cases (pure_inv h₁).1
  refine ⟨lead ++ .word first :: ns, by simp [hns], by simp, ?_⟩
  have hsep : ∀ (n : String) (ms : List String),
      ((n :: ms).map Lexeme.word).intersperse (.mark ',') =
        .word n :: ms.flatMap fun n => [.mark ',', .word n] := by
    intro n ms
    induction ms generalizing n with
    | nil => rfl
    | cons m ms ih => simpa using ih m
  rw [hsep]
  simp [counting_eq_nil.mpr hl, hcount]

/-- A list up to a mark ends with the mark. -/
lemma commaList_inv {c : Char} {r : Reader α} [Consumes r] {p : List α × Bool}
    (h : commaList (String.singleton c) r ts = some (p, us)) :
    ∃ its, ts = its ++ .mark c :: us := by
  obtain ⟨cells, vs, hcells, h₁⟩ := bind_inv h
  obtain ⟨_, ws, hclose, h₂⟩ := bind_inv h₁
  obtain ⟨_, xs, hcheck, h₃⟩ := bind_inv h₂
  obtain ⟨-, rfl⟩ := check_inv hcheck
  obtain ⟨-, rfl⟩ := pure_inv h₃
  obtain ⟨lead, -, rfl⟩ := mark_inv hclose
  obtain ⟨its, rfl⟩ := Consumes.suffix hcells
  exact ⟨its ++ lead, by simp⟩

/-- From `ts` on, `r` reads the items of `cs`, each of them with a terminator behind it or not. -/
inductive Cells (r : Reader α) : List Lexeme → List (α × Bool) → List Lexeme → Prop
  | nil {ts : List Lexeme} : Cells r ts [] ts
  | cons {ts us vs ws : List Lexeme} {a : α} {b : Bool} {cs : List (α × Bool)} :
      r ts = some (a, us) → terminator? us = some (b, vs) → Cells r vs cs ws →
        Cells r ts ((a, b) :: cs) ws

lemma lines_inv {close : String} {r : Reader α} {as : List α}
    (h : lines close r ts = some (as, vs)) :
    ∃ cs us, Cells r ts cs us ∧ mark close us = some ((), vs) ∧
      cs.dropLast.all (·.2) = true ∧ as = cs.map (·.1) := by
  obtain ⟨cs, us, hcs, h₁⟩ := bind_inv h
  obtain ⟨_, ws, hclose, h₂⟩ := bind_inv h₁
  obtain ⟨_, xs, hcheck, h₃⟩ := bind_inv h₂
  obtain ⟨hall, rfl⟩ := check_inv hcheck
  obtain ⟨rfl, rfl⟩ := pure_inv h₃
  refine ⟨cs, us, ?_, hclose, hall, rfl⟩
  have hruns := many_inv hcs
  clear hcs hclose hcheck hall h h₁ h₂ h₃
  induction hruns with
  | enough => exact .nil
  | stop h =>
    obtain ⟨b, vs, hs, h₁⟩ := bind_inv h
    obtain rfl := sees_inv hs
    split at h₁
    · obtain ⟨-, rfl⟩ := pure_inv h₁
      exact .nil
    · obtain ⟨a, ws, -, h₂⟩ := bind_inv h₁
      obtain ⟨b, xs, -, h₃⟩ := bind_inv h₂
      cases (pure_inv h₃).1
  | step h _ ih =>
    obtain ⟨b, vs, hs, h₁⟩ := bind_inv h
    obtain rfl := sees_inv hs
    split at h₁
    · cases (pure_inv h₁).1
    · obtain ⟨a, ws, ha, h₂⟩ := bind_inv h₁
      obtain ⟨b, xs, hb, h₃⟩ := bind_inv h₂
      obtain ⟨he, rfl⟩ := pure_inv h₃
      cases he
      exact .cons ha hb ih

lemma fullLines_inv {close : String} {r : Reader α} {as : List α}
    (h : fullLines close r ts = some (as, vs)) :
    ∃ us, Cells r ts (as.map (·, true)) us ∧ mark close us = some ((), vs) := by
  obtain ⟨as, us, has, h₁⟩ := bind_inv h
  obtain ⟨_, ws, hclose, h₂⟩ := bind_inv h₁
  obtain ⟨rfl, rfl⟩ := pure_inv h₂
  refine ⟨us, ?_, hclose⟩
  have hruns := many_inv has
  clear has hclose h h₁ h₂
  induction hruns with
  | enough => exact .nil
  | stop h =>
    obtain ⟨b, vs, hs, h₁⟩ := bind_inv h
    obtain rfl := sees_inv hs
    split at h₁
    · obtain ⟨-, rfl⟩ := pure_inv h₁
      exact .nil
    · obtain ⟨a, ws, -, h₂⟩ := bind_inv h₁
      obtain ⟨_, xs, -, h₃⟩ := bind_inv h₂
      cases (pure_inv h₃).1
  | step h _ ih =>
    obtain ⟨b, vs, hs, h₁⟩ := bind_inv h
    obtain rfl := sees_inv hs
    split at h₁
    · cases (pure_inv h₁).1
    · obtain ⟨a, ws, ha, h₂⟩ := bind_inv h₁
      obtain ⟨_, xs, hb, h₃⟩ := bind_inv h₂
      obtain ⟨he, rfl⟩ := pure_inv h₃
      cases he
      obtain ⟨b, ys, hb, h₄⟩ := bind_inv hb
      obtain ⟨rfl, rfl⟩ := check_inv h₄
      exact .cons ha hb ih

/-! ### Items that are no declarations -/

/-- A package clause is the keyword and a name. -/
lemma packageItem_inv {i : Item} (h : packageItem (.word "package" :: ts) = some (i, us)) :
    i = .package ∧ ∃ mid name, Blank mid ∧ ts = mid ++ .word name :: us := by
  obtain ⟨_, vs, hkey, h₁⟩ := bind_inv h
  obtain ⟨_, ws, hname, h₂⟩ := bind_inv h₁
  obtain ⟨rfl, rfl⟩ := pure_inv h₂
  obtain ⟨_, hkey⟩ := discard_inv hkey
  cases hkey
  obtain ⟨name, hname⟩ := discard_inv hname
  obtain ⟨mid, hmid, rfl⟩ := word_inv hname
  exact ⟨rfl, mid, name, hmid, rfl⟩

/-- An import declaration is the keyword and an entry, or the keyword and a group. -/
lemma importItem_inv {i : Item} (h : importItem (.word "import" :: ts) = some (i, us)) :
    (∃ e, i = .importOne e ∧ importEntry ts = some (e, us)) ∨
      ∃ lead vs n parts, Blank lead ∧ ts = lead ++ .mark '(' :: vs ∧ i = .importGroup parts ∧
        importParts n false vs = some (parts, us) := by
  obtain ⟨_, vs, hkey, h₁⟩ := bind_inv h
  obtain ⟨_, hkey⟩ := discard_inv hkey
  cases hkey
  obtain ⟨group, xs, htakes, h₂⟩ := bind_inv h₁
  have hxs := takes_inv (c := '(') htakes
  split at h₂
  · next hgroup =>
    rw [if_pos hgroup] at hxs
    obtain ⟨lead, hlead, rfl⟩ := hxs
    obtain ⟨parts, ys, hparts, h₃⟩ := bind_inv h₂
    obtain ⟨rfl, rfl⟩ := pure_inv h₃
    exact .inr ⟨lead, xs, _, parts, hlead, rfl, rfl, hparts⟩
  · next hgroup =>
    rw [if_neg hgroup] at hxs
    subst hxs
    obtain ⟨e, ys, he, h₃⟩ := bind_inv h₂
    obtain ⟨rfl, rfl⟩ := pure_inv h₃
    exact .inl ⟨e, rfl, he⟩

end Reader

end SchemaGo.Go.Grammar
