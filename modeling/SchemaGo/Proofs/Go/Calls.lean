import Mathlib
import SchemaGo.Proofs.Go.Rows

/-!
Reading the calls and the signatures of generated functions: lists with commas, the arguments and
the parameters in them, and the operands that calls are.
-/

namespace SchemaGo.Go

open Grammar Reader Lexeme

variable {ts us : List Lexeme}

/-! ### Trivia are passed over -/

section Skips

variable {α β : Type} {r : Reader α} {k : α → Reader β}

/-- White space and comments in front make no difference to the reader. -/
def Skips (r : Reader α) : Prop :=
  ∀ lead ts, (∀ t ∈ lead, isTrivia t = true) → r (lead ++ ts) = r ts

lemma Skips.bind (h : Skips r) : Skips (r >>= k) := by
  intro lead ts hl
  change Option.bind (r (lead ++ ts)) _ = Option.bind (r ts) _
  rw [h lead ts hl]

lemma Skips.discard (h : Skips r) : Skips (discard r) :=
  h.bind (k := fun _ => pure ())

lemma skips_advance : Skips advance := fun _ ts hl => next_trivia hl ts

lemma skips_word : Skips Reader.word := by
  intro lead ts hl
  rw [Reader.word, Reader.word, next_trivia hl]

lemma skips_mark (op : String) : Skips (Reader.mark op) := by
  intro lead ts hl
  rw [Reader.mark, Reader.mark, upcoming_trivia hl]

/-- The reader looks at what comes next and takes nothing. -/
def Looks (r : Reader α) : Prop :=
  ∀ ts, ∃ a, r ts = some (a, ts) ∧
    ∀ lead, (∀ t ∈ lead, isTrivia t = true) → r (lead ++ ts) = some (a, lead ++ ts)

lemma Looks.bind (h : Looks r) (hk : ∀ a, Skips (k a)) : Skips (r >>= k) := by
  intro lead ts hl
  obtain ⟨a, ha, hlead⟩ := h ts
  rw [bind_eq (hlead lead hl), bind_eq ha, hk a lead ts hl]

lemma looks_peek : Looks (peek .closed) :=
  fun ts => ⟨_, rfl, fun lead hl => by rw [peek, next_trivia hl]⟩

lemma looks_operator (ops : List String) : Looks (operator .closed ops) :=
  fun ts => ⟨_, rfl, fun lead hl => by simp only [operator, upcoming_trivia hl]⟩

lemma skips_takes {op : String} {k : Bool → Reader β} (hk : Skips (k false)) :
    Skips (takes .closed op >>= k) := by
  intro lead ts hl
  have hu := upcoming_trivia hl ts
  rcases hd : dropMarks op.toList (upcoming .closed ts) with _ | us
  · have h₁ : takes .closed op ts = some (false, ts) := by simp [takes, hd]
    have h₂ : takes .closed op (lead ++ ts) = some (false, lead ++ ts) := by simp [takes, hu, hd]
    rw [bind_eq h₁, bind_eq h₂, hk lead ts hl]
  · have h₁ : takes .closed op ts = some (true, us) := by simp [takes, hd]
    have h₂ : takes .closed op (lead ++ ts) = some (true, us) := by simp [takes, hu, hd]
    rw [bind_eq h₁, bind_eq h₂]

lemma skips_type (k : ℕ) (tail : Tail) : Skips (type (upTo (k + 1)) tail) := by
  have h : Skips (upTo (k + 1) (.type tail)) := by
    change Skips (typeAt (upTo k) tail >>= fun _ => pure Reading.onlyType)
    refine Skips.bind ?_
    exact skips_advance.bind
  exact h.discard

lemma skips_unary (inner : Inner) (s : Setting) : Skips (unary inner s) := by
  refine (looks_operator _).bind fun o => ?_
  cases o with
  | none => exact Skips.bind (skips_advance.bind)
  | some op => exact (skips_mark op).bind

lemma skips_exprOrType (inner : Inner) (s : Setting) : Skips (exprOrType inner s) :=
  (skips_unary inner s).bind

lemma skips_expression (k : ℕ) (s : Setting) : Skips (expression (upTo (k + 1)) s) :=
  Skips.bind (r := upTo (k + 1) (.expr s)) (skips_exprOrType (upTo k) s)

lemma skips_parameter (k : ℕ) : Skips (parameter (upTo (k + 1))) := by
  refine skips_takes ?_
  simp only [Bool.false_eq_true, ite_false]
  refine looks_peek.bind fun t => ?_
  split
  · split
    · exact skips_type k .closed
    · exact skips_word.discard.bind
  · exact skips_type k .closed

end Skips

/-! ### Lists with commas -/

/-- The lexemes of a list whose cells have the lexemes `xs`. -/
def commas : List (List Lexeme) → List Lexeme
  | [] => []
  | [x] => x
  | x :: y :: xs => x ++ .mark ',' :: .blank " " :: commas (y :: xs)

lemma spell_commas (xs : List (List Lexeme)) :
    spell (commas xs) = ", ".intercalate (xs.map spell) := by
  induction xs using commas.induct with
  | case1 => rfl
  | case2 x => simp [commas]
  | case3 x y xs ih =>
    rw [commas, spell_append, spell_cons, spell_cons, ih]
    simp only [List.map_cons, String.intercalate_cons_cons, String.append_assoc]
    exact congrArg (spell x ++ ·) (String.append_assoc ..).symm

/-- A comma comes next, or the parenthesis that closes a list. -/
def Closes (us : List Lexeme) : Prop := ∃ c vs, us = .mark c :: vs ∧ (c = ',' ∨ c = ')')

lemma Closes.ends (h : Closes us) : Ends .closed us := by
  obtain ⟨c, vs, rfl, hc⟩ := h
  rcases hc with rfl | rfl <;> exact ⟨rfl, rfl⟩

/-- The lexemes of a cell that `r` reads in a list with commas. -/
structure IsCell (r : ℕ → Reader Unit) (ts : List Lexeme) : Prop where
  first : ∃ t rest, ts = t :: rest ∧ isTrivia t = false ∧ t ≠ .mark ',' ∧ t ≠ .mark ')'
  reads : ∀ c cs, isStop c → ReadsAll ts (c :: cs)
  runs : ∀ k us, Closes us → r k (ts ++ us) = some ((), us)

lemma dropMarks_of_ne {t : Lexeme} {c : Char} (h : t ≠ .mark c) (us : List Lexeme) :
    dropMarks [c] (t :: us) = none := by
  cases t with
  | mark d =>
    have hcd : c ≠ d := fun he => h (by rw [he])
    simp [dropMarks, hcd]
  | _ => rfl

section Lists

variable {r : ℕ → Reader Unit} {xs : List (List Lexeme)}

lemma IsCell.isSpace_head (h : IsCell r ts) (cs : List Char) :
    ∀ c ∈ (chars ts ++ cs).head?, isSpace c = false := by
  obtain ⟨t, rest, rfl, ht, -, -⟩ := h.first
  exact (h.reads ',' [] (.inr (.inl rfl))).isSpace_head ht cs

/-- What reads one cell of a list, unless the list ends. -/
def listCell (r : Reader Unit) : Reader (Option (Unit × Bool)) := do
  if ← sees .closed ")" then return none
  let a ← r
  return some (a, ← takes .closed ",")

lemma skips_listCell {r : Reader Unit} (hr : Skips r) {lead : List Lexeme}
    (hl : ∀ t ∈ lead, isTrivia t = true) {a : Unit × Bool} (h : listCell r ts = some (some a, us)) :
    listCell r (lead ++ ts) = some (some a, us) := by
  have hs : ∃ b, sees .closed ")" ts = some (b, ts) ∧
      sees .closed ")" (lead ++ ts) = some (b, lead ++ ts) :=
    ⟨_, rfl, by rw [sees, upcoming_trivia hl]⟩
  obtain ⟨b, h₁, h₂⟩ := hs
  rw [listCell, bind_eq h₁] at h
  rw [listCell, bind_eq h₂]
  cases b with
  | true => exact absurd h (by simp [pure, StateT.pure])
  | false =>
    simp only [Bool.false_eq_true, ite_false] at h ⊢
    rw [hr.bind lead ts hl]
    exact h

lemma repeats_skips {r : Reader Unit} (hr : Skips r) {lead : List Lexeme}
    (hl : ∀ t ∈ lead, isTrivia t = true) {a : Unit × Bool} {as : List (Unit × Bool)}
    (h : Repeats (listCell r) ts (a :: as) us) :
    Repeats (listCell r) (lead ++ ts) (a :: as) us := by
  cases h with
  | step hstep hrest => exact .step (skips_listCell hr hl hstep) hrest

lemma IsCell.step {x : List Lexeme} (hx : IsCell r x) (k : ℕ) {us vs : List Lexeme}
    {comma : Bool} (hus : Closes us) (ht : takes .closed "," us = some (comma, vs)) :
    listCell (r k) (x ++ us) = some (some ((), comma), vs) := by
  have hs : sees .closed ")" (x ++ us) = some (false, x ++ us) := by
    obtain ⟨t, rest, rfl, ht, -, hclose⟩ := hx.first
    have hc : ")".toList = [')'] := rfl
    rw [sees, List.cons_append, upcoming_of_cons ht, hc, dropMarks_of_ne hclose]
    rfl
  rw [listCell, bind_eq hs]
  simp only [Bool.false_eq_true, ite_false]
  rw [bind_eq (hx.runs k us hus), bind_eq ht]
  rfl

variable (h : ∀ x ∈ xs, IsCell r x)

include h

lemma reads_commas (cs : List Char) : ReadsAll (commas xs) (')' :: cs) := by
  induction xs using commas.induct with
  | case1 => trivial
  | case2 x => exact (h x (by simp)).reads _ _ (.inr (.inr rfl))
  | case3 x y xs ih =>
    have ih := ih fun z hz => h z (List.mem_cons_of_mem _ hz)
    have hspace : ∀ c ∈ (chars (commas (y :: xs)) ++ ')' :: cs).head?, isSpace c = false := by
      cases xs with
      | nil => exact (h y (by simp)).isSpace_head _
      | cons z zs =>
        rw [commas, chars_append, List.append_assoc]
        exact (h y (by simp)).isSpace_head _
    rw [commas, readsAll_append]
    exact ⟨(h x (by simp)).reads _ _ (.inr (.inl rfl)), reads_mark (by rfl) _,
      isSpaces_one.reads hspace, ih⟩

/-- Cell by cell, each but the last with a comma behind it. -/
lemma repeats_commas (hr : ∀ k, Skips (r k)) (hne : xs ≠ []) (k : ℕ) (us : List Lexeme) :
    Repeats (listCell (r k)) (commas xs ++ .mark ')' :: us)
      (xs.dropLast.map (fun _ => ((), true)) ++ [((), false)]) (.mark ')' :: us) := by
  induction xs using commas.induct with
  | case1 => exact absurd rfl hne
  | case2 x =>
    exact .step ((h x (by simp)).step k ⟨')', us, rfl, .inr rfl⟩ rfl) (.stop rfl)
  | case3 x y xs ih =>
    have ih := ih (fun z hz => h z (List.mem_cons_of_mem _ hz)) (by simp)
    rw [commas, List.append_assoc, List.dropLast_cons_of_ne_nil (by simp), List.map_cons]
    refine .step ((h x (by simp)).step k ⟨',', _, rfl, .inl rfl⟩ rfl) ?_
    -- the blank behind the comma stands in front of the next cell
    obtain ⟨c, cs, hcs⟩ : ∃ c cs, (y :: xs).dropLast.map (fun _ => ((), true)) ++ [((), false)] =
        c :: cs := List.exists_cons_of_ne_nil (by simp)
    rw [hcs] at ih
    have hblank : ∀ t ∈ [Lexeme.blank " "], isTrivia t = true := by simp [isTrivia]
    have hskip := repeats_skips (hr k) hblank ih
    rw [← hcs] at hskip
    exact hskip

omit h in
lemma length_le_commas (h : ∀ x ∈ xs, x ≠ []) : xs.length ≤ (commas xs).length := by
  induction xs using commas.induct with
  | case1 => simp
  | case2 x =>
    simpa [commas, Nat.one_le_iff_ne_zero] using h x (by simp)
  | case3 x y xs ih =>
    have ih := ih fun z hz => h z (List.mem_cons_of_mem _ hz)
    simp only [commas, List.length_append, List.length_cons] at ih ⊢
    omega

lemma commaList_commas (hr : ∀ k, Skips (r k)) (k : ℕ) (us : List Lexeme) :
    ∃ as, commaList ")" (r k) (commas xs ++ .mark ')' :: us) = some ((as, false), us) := by
  by_cases hne : xs = []
  · subst hne
    exact ⟨[], rfl⟩
  · have hrep := repeats_commas h hr hne k us
    have hlen : xs.length ≤ (commas xs).length := length_le_commas fun x hx => by
      obtain ⟨t, rest, rfl, -⟩ := (h x hx).first
      simp
    have hmany := many_eq hrep (by simp at hlen ⊢; omega)
    have hall : (xs.dropLast.map (fun _ => ((), true)) ++ [((), false)]).dropLast.all (·.2) =
        true := by simp
    refine ⟨(xs.dropLast.map (fun _ => ((), true)) ++ [((), false)]).map (·.1), ?_⟩
    rw [commaList]
    refine (bind_eq hmany).trans ?_
    rw [bind_eq (show Reader.mark ")" (.mark ')' :: us) = some ((), us) from rfl), hall,
      bind_eq (show Reader.check true us = some ((), us) from rfl)]
    simp
    rfl

/-- A list does not begin with a comma. -/
lemma takes_comma_commas (us : List Lexeme) :
    takes .closed "," (commas xs ++ .mark ')' :: us) =
      some (false, commas xs ++ .mark ')' :: us) := by
  have key : ∀ x ∈ xs, ∀ vs, takes .closed "," (x ++ vs) = some (false, x ++ vs) := by
    intro x hx vs
    obtain ⟨t, rest, rfl, ht, hcomma, -⟩ := (h x hx).first
    have hc : ",".toList = [','] := rfl
    rw [takes, List.cons_append, upcoming_of_cons ht, hc, dropMarks_of_ne hcomma]
  cases xs with
  | nil => rfl
  | cons x xs =>
    cases xs with
    | nil => exact key x (by simp) _
    | cons y ys =>
      rw [commas, List.append_assoc]
      exact key x (by simp) _

end Lists

/-! ### Operands -/

section Operands

variable {inner : Inner} {s : Setting} {r r' : Reading} {w : String}

lemma postfixUpTo_step (n : ℕ) (h : postfixStep inner s r ts = some (some r', us)) :
    postfixUpTo inner s (n + 1) r ts = postfixUpTo inner s n r' us := by
  rw [postfixUpTo, bind_eq h]

lemma postfixUpTo_stop (n : ℕ) (h : postfixStep inner s r ts = some (none, ts)) :
    postfixUpTo inner s n r ts = some (r, ts) := by
  cases n with
  | zero => rfl
  | succ n =>
    rw [postfixUpTo, bind_eq h]
    rfl

lemma binaryUpTo_stop (n : ℕ) (h : binaryStep inner s r ts = some (none, ts)) :
    binaryUpTo inner s n r ts = some (r, ts) := by
  cases n with
  | zero => rfl
  | succ n =>
    rw [binaryUpTo, bind_eq h]
    rfl

lemma exprOrType_of_unary (h : unary inner s ts = some (r, us))
    (hstop : binaryStep inner s r us = some (none, us)) :
    exprOrType inner s ts = some (r, us) := by
  rw [exprOrType, bind_eq h]
  exact binaryUpTo_stop _ hstop

lemma expression_eq {k : ℕ} (h : exprOrType (upTo k) s ts = some (r, us)) (hr : r.expr = true) :
    expression (upTo (k + 1)) s ts = some ((), us) := by
  have hi : upTo (k + 1) (.expr s) ts = some (r, us) := h
  rw [expression, bind_eq hi, hr]
  rfl

/-- A word that begins no type stands for a value, whatever else it may stand for. -/
lemma operand_word (inner : Inner) (hw : w ∉ typeKeywords) :
    ∃ r : Reading, (r = .identifier ∨ r = .value ∨ r = { Reading.value with allocator := true }) ∧
      ∀ us, operand inner (.word w :: us) = some (r, us) := by
  simp only [typeKeywords, List.mem_cons, not_or] at hw
  obtain ⟨h1, h2, h3, h4, h5, -⟩ := hw
  refine ⟨if w == "new" || w == "make" then { Reading.value with allocator := true }
    else if ["nil", "true", "false", "iota"].contains w then .value else .identifier, ?_,
    fun us => ?_⟩
  · split
    · exact .inr (.inr rfl)
    · split
      · exact .inr (.inl rfl)
      · exact .inl rfl
  · rw [operand, bind_eq (show advance (.word w :: us) = some (.word w, us) from rfl)]
    simp only
    split
    · rfl
    · split <;> rfl

lemma unary_word (inner : Inner) (s : Setting) (hw : w ∉ typeKeywords) (h : Closes us) :
    ∃ r, unary inner s (.word w :: us) = some (r, us) ∧ r.expr = true ∧ r.subject = false := by
  obtain ⟨r, hr, hop⟩ := operand_word inner hw
  obtain ⟨c, vs, rfl, hc⟩ := h
  have hstop : postfixStep inner s r (.mark c :: vs) = some (none, .mark c :: vs) := by
    rcases hr with rfl | rfl | rfl <;> rcases hc with rfl | rfl <;> rfl
  refine ⟨r, ?_, ?_, ?_⟩
  · rw [unary, bind_eq (show operator .closed unaryOperators _ = some (none, _) from rfl)]
    simp only
    rw [bind_eq (hop _)]
    exact postfixUpTo_stop _ hstop
  · rcases hr with rfl | rfl | rfl <;> rfl
  · rcases hr with rfl | rfl | rfl <;> rfl

end Operands

/-! ### Arguments -/

/-- What reads an argument of a call. -/
def argument (inner : Inner) : Reader Unit := do
  expression inner {}
  discard (takes .closed "...")

abbrev IsArgument (ts : List Lexeme) : Prop := IsCell (fun k => argument (upTo (k + 3))) ts

lemma argument_eq {k : ℕ} {r : Reading} (h : unary (upTo k) {} ts = some (r, us))
    (hr : r.expr = true) (hsub : r.subject = false) (hus : Closes us) :
    argument (upTo (k + 1)) ts = some ((), us) := by
  obtain ⟨c, vs, rfl, hc⟩ := hus
  have hstop : binaryStep (upTo k) {} r (.mark c :: vs) = some (none, .mark c :: vs) := by
    rw [binaryStep, hsub]
    rcases hc with rfl | rfl <;> rfl
  have ht : takes .closed "..." (.mark c :: vs) = some (false, .mark c :: vs) := by
    rcases hc with rfl | rfl <;> rfl
  rw [argument, bind_eq (expression_eq (exprOrType_of_unary h hstop) hr)]
  exact discard_eq ht

lemma isArgument_word {w : String} (hw : isTypeName w = true) : IsArgument [.word w] where
  first := ⟨_, _, rfl, rfl, by simp, by simp⟩
  reads := (isType_name hw).reads
  runs k us hus := by
    obtain ⟨r, hr, he, hs⟩ := unary_word (upTo (k + 2)) {}
      (by simpa using (Bool.and_eq_true_iff.mp hw).2) hus
    exact argument_eq hr he hs hus

/-- The address of a variable. -/
lemma isArgument_address {w : String} (hw : isTypeName w = true) :
    IsArgument [.mark '&', .word w] where
  first := ⟨_, _, rfl, rfl, by simp, by simp⟩
  reads c cs hc := ⟨reads_mark (by rfl) _, (isType_name hw).reads c cs hc⟩
  runs k us hus := by
    obtain ⟨r, hr, he, -⟩ := unary_word (upTo (k + 1)) {}
      (by simpa using (Bool.and_eq_true_iff.mp hw).2) hus
    have hi : upTo (k + 2) (.unary {}) (.word w :: us) = some (r, us) := hr
    have hu : unary (upTo (k + 2)) {} (.mark '&' :: .word w :: us) =
        some ({ expr := r.expr }, us) := by
      rw [unary, bind_eq (show operator .closed unaryOperators _ = some (some "&", _) from rfl)]
      simp only
      rw [bind_eq (show Reader.mark "&" _ = some ((), .word w :: us) from rfl), bind_eq hi]
      rfl
    rw [he] at hu
    exact argument_eq hu rfl rfl hus

/-- The address of a field of the row at hand. -/
lemma isArgument_field {f : String} (hf : isWord f = true) :
    IsArgument [.mark '&', .word "i", .mark '.', .word f] where
  first := ⟨_, _, rfl, rfl, by simp, by simp⟩
  reads c cs hc :=
    ⟨reads_mark (by rfl) _, (isType_qualified (by decide) hf).reads c cs hc⟩
  runs k us hus := by
    obtain ⟨c, vs, rfl, hc⟩ := hus
    rcases hc with rfl | rfl <;> rfl

lemma skips_argument (k : ℕ) : Skips (argument (upTo (k + 3))) := (skips_expression _ _).bind

lemma arguments_commas {xs : List (List Lexeme)} (h : ∀ x ∈ xs, IsArgument x) (k : ℕ)
    (us : List Lexeme) :
    arguments (upTo (k + 3)) (commas xs ++ .mark ')' :: us) = some ((), us) := by
  obtain ⟨as, has⟩ := commaList_commas h skips_argument k us
  exact discard_eq has

/-! ### Parameters -/

abbrev IsParameter (ts : List Lexeme) : Prop := IsCell (fun k => parameter (upTo (k + 4))) ts

/-- A parameter that begins with a word, where `h` reads the rest. -/
lemma parameter_word {inner : Inner} {w : String} (hw : w ∉ typeKeywords)
    (hdots : takes .closed "..." ts = some (false, ts))
    (h : (do
      if ← sees .closed "." then typeNameRest inner .closed
      else if ← sees .closed "[" then discard (nameOrGeneric inner .closed)
      else if ← seesType .closed then type inner .closed : Reader Unit) ts = some ((), us)) :
    parameter inner (.word w :: ts) = some ((), us) := by
  have hk : typeKeywords.contains w = false := by simpa using hw
  rw [parameter, bind_eq (show takes .closed "..." _ = some (false, .word w :: ts) from rfl)]
  simp only [Bool.false_eq_true, ite_false]
  rw [bind_eq (show peek .closed _ = some (some (.word w), .word w :: ts) from rfl)]
  simp only [hk, Bool.false_eq_true, ite_false]
  rw [bind_eq (discard_eq (show Reader.word (.word w :: ts) = some (w, ts) from rfl)),
    bind_eq hdots]
  simp only [Bool.false_eq_true, ite_false]
  exact h

/-- A parameter with its type. -/
lemma isParameter_named {n : String} (hn : isTypeName n = true) {ts : List Lexeme}
    (ht : IsType ts) : IsParameter (.word n :: .blank " " :: ts) where
  first := ⟨_, _, rfl, rfl, by simp, by simp⟩
  reads c cs hc := by
    refine ⟨reads_word (Bool.and_eq_true_iff.mp hn).1 ?_, isSpaces_one.reads (ht.isSpace_head _),
      ht.reads c cs hc⟩
    exact isSpaces_one.isIdentPart _
  runs k us hus := by
    have hends := hus.ends
    have hk : n ∉ typeKeywords := by simpa using (Bool.and_eq_true_iff.mp hn).2
    rcases ht.first with ⟨rest, rfl, hrest⟩ | ⟨x, rest, hts, hx⟩
    · -- the brackets of a slice might have been those of a generic type
      have hb : brackets (upTo (k + 4)) (.blank " " :: .mark '[' :: .mark ']' :: (rest ++ us)) =
          some (.empty, rest ++ us) := rfl
      have hg : nameOrGeneric (upTo (k + 4)) .closed
          (.blank " " :: .mark '[' :: .mark ']' :: (rest ++ us)) = some (true, us) := by
        rw [nameOrGeneric, bind_eq hb]
        simp only [ite_true]
        rw [bind_eq (hrest k .closed us hends)]
        rfl
      refine parameter_word hk (by rfl) ?_
      rw [bind_eq (show sees .closed "." _ = some (false, _) from rfl)]
      simp only [Bool.false_eq_true, ite_false]
      rw [bind_eq (show sees .closed "[" _ = some (true, _) from rfl)]
      simp only [ite_true]
      exact discard_eq hg
    · obtain ⟨vs, hvs⟩ : ∃ vs, vs = .blank " " :: (ts ++ us) := ⟨_, rfl⟩
      obtain ⟨h₁, h₂, h₃, h₄⟩ : takes .closed "..." vs = some (false, vs) ∧
          sees .closed "." vs = some (false, vs) ∧ sees .closed "[" vs = some (false, vs) ∧
          seesType .closed vs = some (true, vs) := by
        subst hvs hts
        rcases hx with rfl | ⟨w, rfl⟩ <;> exact ⟨rfl, rfl, rfl, rfl⟩
      have hr : type (upTo (k + 4)) .closed vs = some ((), us) := by
        have hty := ht.runs k .closed us hends
        subst hvs
        exact hty
      have hp : parameter (upTo (k + 4)) (.word n :: vs) = some ((), us) := parameter_word hk h₁ (by
        rw [bind_eq h₂]
        simp only [Bool.false_eq_true, ite_false]
        rw [bind_eq h₃]
        simp only [Bool.false_eq_true, ite_false]
        rw [bind_eq h₄]
        simp only [ite_true]
        exact hr)
      rw [hvs] at hp
      exact hp

/-- A type alone, where it is a name. -/
lemma isParameter_name {w : String} (hw : isTypeName w = true) : IsParameter [.word w] where
  first := ⟨_, _, rfl, rfl, by simp, by simp⟩
  reads := (isType_name hw).reads
  runs k us hus := by
    obtain ⟨c, vs, rfl, hc⟩ := hus
    refine parameter_word (by simpa using (Bool.and_eq_true_iff.mp hw).2) ?_ ?_
    · rcases hc with rfl | rfl <;> rfl
    · rcases hc with rfl | rfl <;> rfl

lemma isParameter_qualified {p w : String} (hp : isTypeName p = true) (hw : isWord w = true) :
    IsParameter [.word p, .mark '.', .word w] where
  first := ⟨_, _, rfl, rfl, by simp, by simp⟩
  reads := (isType_qualified hp hw).reads
  runs k us hus := by
    have hends := hus.ends
    refine parameter_word (by simpa using (Bool.and_eq_true_iff.mp hp).2) (by rfl) ?_
    rw [bind_eq (show sees .closed "." _ = some (true, _) from rfl)]
    simp only [ite_true]
    exact hends.typeNameRest_point _ w

/-- A slice type alone. -/
lemma isParameter_slice {ts : List Lexeme} (ht : IsType ts) (hr : RunsAsType 3 ts) :
    IsParameter (.mark '[' :: .mark ']' :: ts) where
  first := ⟨_, _, rfl, rfl, by simp, by simp⟩
  reads c cs hc := ⟨reads_mark (by rfl) _, reads_mark (by rfl) _, ht.reads c cs hc⟩
  runs k us hus := by
    have hty := hr.slice k .closed us hus.ends
    rw [parameter, bind_eq (show takes .closed "..." _ =
      some (false, .mark '[' :: .mark ']' :: ts ++ us) from rfl)]
    simp only [Bool.false_eq_true, ite_false]
    rw [bind_eq (show peek .closed _ =
      some (some (.mark '['), .mark '[' :: .mark ']' :: ts ++ us) from rfl)]
    exact hty

lemma parameters_commas {xs : List (List Lexeme)} (h : ∀ x ∈ xs, IsParameter x) (k : ℕ)
    (us : List Lexeme) :
    parameters (upTo (k + 4)) (.mark '(' :: (commas xs ++ .mark ')' :: us)) = some ((), us) := by
  obtain ⟨as, has⟩ := commaList_commas h (fun k => skips_parameter (k + 3)) k us
  rw [parameters,
    bind_eq (show Reader.mark "(" _ = some ((), commas xs ++ .mark ')' :: us) from rfl),
    looseList, bind_eq (takes_comma_commas h us)]
  simp only [Bool.false_eq_true, ite_false]
  exact discard_eq has

lemma skips_parameters (inner : Inner) : Skips (parameters inner) := (skips_mark _).bind

end SchemaGo.Go
