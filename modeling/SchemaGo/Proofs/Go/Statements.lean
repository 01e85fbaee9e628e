import Mathlib
import SchemaGo.Proofs.Go.Blocks

/-!
The statements of generated functions: calls whose results are defined or given back, variables,
conditions and loops, and the lines that are the same in all functions.
-/

namespace SchemaGo.Go

open Grammar Reader Lexeme

variable {ts us : List Lexeme}

/-! ### Calls -/

section Calls

variable {inner : Inner} {s : Setting} {w : String}

/-- The step of a call, where `hargs` reads the arguments. -/
lemma postfixStep_call {r : Reading} (hr : r = .identifier ∨ r = .qualified)
    (hargs : arguments inner ts = some ((), us)) :
    postfixStep inner s r (.mark '(' :: ts) = some (some .value, us) := by
  have hcall : call inner r ts = some (.value, us) := by
    rcases hr with rfl | rfl <;> exact bind_eq hargs
  have hstep : postfixStep inner s r (.mark '(' :: ts) =
      (call inner r >>= fun a => pure (some a)) ts := by
    rcases hr with rfl | rfl <;> rfl
  rw [hstep, bind_eq hcall]
  rfl

/-- A call of a function. -/
lemma unary_call (hw : ∀ us, operand inner (.word w :: us) = some (.identifier, us))
    (hargs : arguments inner ts = some ((), us))
    (hstop : postfixStep inner s .value us = some (none, us)) :
    unary inner s (.word w :: .mark '(' :: ts) = some (.value, us) := by
  rw [unary, bind_eq (show operator .closed unaryOperators _ = some (none, _) from rfl)]
  simp only
  rw [bind_eq (hw _), List.length_cons, postfixUpTo_step _ (postfixStep_call (.inl rfl) hargs)]
  exact postfixUpTo_stop _ hstop

/-- A call of a method. -/
lemma unary_method (hw : ∀ us, operand inner (.word w :: us) = some (.identifier, us)) (m : String)
    (hargs : arguments inner ts = some ((), us))
    (hstop : postfixStep inner s .value us = some (none, us)) :
    unary inner s (.word w :: .mark '.' :: .word m :: .mark '(' :: ts) = some (.value, us) := by
  have hpoint : postfixStep inner s .identifier (.mark '.' :: .word m :: .mark '(' :: ts) =
      some (some .qualified, .mark '(' :: ts) := rfl
  rw [unary, bind_eq (show operator .closed unaryOperators _ = some (none, _) from rfl)]
  simp only
  rw [bind_eq (hw _), List.length_cons, postfixUpTo_step _ hpoint, List.length_cons,
    List.length_cons, postfixUpTo_step _ (postfixStep_call (.inr rfl) hargs)]
  exact postfixUpTo_stop _ hstop

end Calls

/-! ### Definitions of variables -/

/-- Where the definition of a variable stands. -/
def IsPlace (p : Grammar.Place) : Prop := p = .body .line ∨ p = .condition

/-- In front of a definition sign the lexemes `head` are read as what is defined. -/
def Defines (head : List Lexeme) : Prop :=
  ∀ k p ts, IsPlace p →
    simple (upTo (k + 2)) p (head ++ .blank " " :: .mark ':' :: .mark '=' :: ts) =
      assigned (upTo (k + 2)) p ":=" ts

lemma defines_one {x : String} (hx : x = "row" ∨ x = "err") : Defines [.word x] := by
  intro k p ts hp
  generalize upTo (k + 2) = inner
  rcases hp with rfl | rfl <;> rcases hx with rfl | rfl <;> rfl

lemma defines_two {x : String} (hx : x = "_" ∨ x = "rows") :
    Defines [.word x, .mark ',', .blank " ", .word "err"] := by
  intro k p ts hp
  obtain ⟨vs, hvs⟩ : ∃ vs : List Lexeme, vs = .blank " " :: .word "err" :: .blank " " ::
    .mark ':' :: .mark '=' :: ts := ⟨_, rfl⟩
  have hr : range? (upTo (k + 2)) p = pure false := by
    rcases hp with rfl | rfl <;> rfl
  have hfirst : exprOrType (upTo (k + 2)) p.left (.word x :: .mark ',' :: vs) =
      some (.identifier, .mark ',' :: vs) := by
    rcases hp with rfl | rfl <;> rcases hx with rfl | rfl <;> rfl
  have hop : operator p.tail ("," :: Follow.statement.operators) (.mark ',' :: vs) =
      some (some ",", .mark ',' :: vs) := by
    rcases hp with rfl | rfl <;> rfl
  have hnames : expressions (upTo (k + 2)) { follow := .assignment } vs =
      some ((), .blank " " :: .mark ':' :: .mark '=' :: ts) := by
    rw [hvs]
    rfl
  rw [simple, hr, pure_bind]
  simp only [Bool.false_eq_true, ite_false]
  rw [List.cons_append, List.cons_append, List.cons_append, List.cons_append, List.nil_append,
    ← hvs, bind_eq hfirst]
  rw [if_neg (show ¬ Reading.identifier.subject = true from Bool.false_ne_true),
    bind_eq (show Reader.check Reading.identifier.expr _ = some ((), _) from rfl), bind_eq hop]
  simp only
  rw [bind_eq (show Reader.mark "," (.mark ',' :: vs) = some ((), vs) from rfl), bind_eq hnames,
    bind_eq (show operator .closed assignmentOperators _ = some (some ":=", _) from rfl)]
  simp only
  rw [bind_eq (show Reader.mark ":=" _ = some ((), ts) from rfl)]

lemma assigned_eq {inner : Inner} {p : Grammar.Place} (hp : IsPlace p)
    (h : exprOrType inner p.right ts = some (.value, us))
    (hcomma : takes p.tail "," us = some (false, us)) :
    assigned inner p ":=" ts = some (.effect, us) := by
  have hr : range? inner p = pure false := by
    rcases hp with rfl | rfl <;> rfl
  have hs : { p.right with subject := p = .choice && ":=" == ":=" } = p.right := by
    rcases hp with rfl | rfl <;> rfl
  rw [assigned, if_pos (by rfl), hr, pure_bind, if_neg Bool.false_ne_true, hs]
  refine (bind_eq h).trans ?_
  rw [if_neg (show ¬ Reading.value.subject = true from Bool.false_ne_true),
    bind_eq (show Reader.check Reading.value.expr _ = some ((), _) from rfl), bind_eq hcomma]
  rfl

/-! ### Lines -/

/-- A call stands alone up to the end of the line. -/
lemma exprOrType_method {inner : Inner} {s : Setting} {w : String}
    (hw : ∀ us, operand inner (.word w :: us) = some (.identifier, us)) (m : String)
    (hargs : arguments inner ts = some ((), us))
    (hstop : postfixStep inner s .value us = some (none, us))
    (hend : binaryStep inner s .value us = some (none, us)) :
    exprOrType inner s (.blank " " :: .word w :: .mark '.' :: .word m :: .mark '(' :: ts) =
      some (.value, us) := by
  have h := exprOrType_of_unary (unary_method hw m hargs hstop) hend
  exact (skips_exprOrType inner s [.blank " "] _ (by simp [isTrivia])).trans h

/-- A call whose arguments have the lexemes `xs`, from its parenthesis on. -/
def callLexemes (head : List Lexeme) (xs : List (List Lexeme)) : List Lexeme :=
  head ++ .mark '(' :: (commas xs ++ [.mark ')'])

lemma callLexemes_append (head : List Lexeme) (xs : List (List Lexeme)) (us : List Lexeme) :
    callLexemes head xs ++ us = head ++ .mark '(' :: (commas xs ++ .mark ')' :: us) := by
  simp [callLexemes]

lemma reads_callLexemes {head : List Lexeme} (hcode : isCode head (.mark '(') = true)
    {xs : List (List Lexeme)} (hxs : ∀ x ∈ xs, IsArgument x) (cs : List Char) :
    ReadsAll (callLexemes head xs) cs := by
  refine readsAll_append.mpr ⟨?_, reads_mark (by rfl) _, readsAll_append.mpr
    ⟨reads_commas hxs _, reads_mark (by rfl) _, trivial⟩⟩
  exact readsAll_of_isCode hcode _

/-- The lexemes of a call of the method `m` of `w`. -/
def methodLexemes (w m : String) : List Lexeme := [.blank " ", .word w, .mark '.', .word m]

/-- The sign of a definition. -/
def defines : List Lexeme := [.blank " ", .mark ':', .mark '=']

/-- What is defined by a call of a method. -/
def defineLexemes (head : List Lexeme) (w m : String) (xs : List (List Lexeme)) : List Lexeme :=
  callLexemes (head ++ (defines ++ methodLexemes w m)) xs

lemma defineLexemes_append (head : List Lexeme) (w m : String) (xs : List (List Lexeme))
    (us : List Lexeme) :
    defineLexemes head w m xs ++ us = head ++ .blank " " :: .mark ':' :: .mark '=' ::
      (.blank " " :: .word w :: .mark '.' :: .word m :: .mark '(' ::
        (commas xs ++ .mark ')' :: us)) := by
  simp [defineLexemes, callLexemes, defines, methodLexemes]

lemma simple_define {head : List Lexeme} (hhead : Defines head) {w : String}
    (hw : ∀ inner us, operand inner (.word w :: us) = some (.identifier, us)) (m : String)
    {xs : List (List Lexeme)} (hxs : ∀ x ∈ xs, IsArgument x) (k : ℕ) (us : List Lexeme)
    {p : Grammar.Place} (hp : IsPlace p)
    (hstop : postfixStep (upTo (k + 3)) p.right .value us = some (none, us))
    (hend : binaryStep (upTo (k + 3)) p.right .value us = some (none, us))
    (hcomma : takes p.tail "," us = some (false, us)) :
    simple (upTo (k + 3)) p (defineLexemes head w m xs ++ us) = some (.effect, us) := by
  have hargs := arguments_commas hxs k us
  have hcall := exprOrType_method (hw _) m hargs hstop hend
  rw [defineLexemes_append, hhead (k + 1) p _ hp]
  exact assigned_eq hp hcall hcomma

/-- The lexemes are the first of a simple statement. -/
def StartsSimple (head : List Lexeme) : Prop :=
  (∃ w rest, head = .word w :: rest) ∧ ∀ inner ts, statementAt inner .line false (head ++ ts) =
    simpleOrLabelled inner .line false (head ++ ts)

lemma startsSimple_word {x : String} (hx : x = "row" ∨ x = "rows" ∨ x = "_")
    (rest : List Lexeme) : StartsSimple (.word x :: rest) := by
  refine ⟨⟨x, rest, rfl⟩, fun inner ts => ?_⟩
  rcases hx with rfl | rfl | rfl <;> rfl

/-- The definition of variables by a call is a statement. -/
lemma isStatement_define {head : List Lexeme} (hhead : Defines head) (hstart : StartsSimple head)
    {w m : String} (hw : ∀ inner us, operand inner (.word w :: us) = some (.identifier, us))
    (hcode : isCode (head ++ (defines ++ methodLexemes w m)) (.mark '(') = true)
    {xs : List (List Lexeme)} (hxs : ∀ x ∈ xs, IsArgument x) :
    IsStatement (defineLexemes head w m xs) where
  first := by
    obtain ⟨x, rest, rfl⟩ := hstart.1
    exact ⟨x, _, rfl⟩
  reads cs := reads_callLexemes hcode hxs _
  runs D us hD := by
    obtain ⟨k, rfl⟩ : ∃ k, D = k + 3 :=
      ⟨D - 3, by simp [defineLexemes, callLexemes, defines, methodLexemes] at hD; omega⟩
    have hs := simple_define hhead hw m hxs k (.newline :: us) (.inl rfl) (by rfl) (by rfl)
      (by rfl)
    rw [defineLexemes_append] at hs ⊢
    rw [hstart.2, simpleOrLabelled, bind_eq hs]
    rfl

/-- The results of a call are given back. -/
def returnLexemes (w m : String) (xs : List (List Lexeme)) : List Lexeme :=
  callLexemes (.word "return" :: methodLexemes w m) xs

lemma isStatement_return {w m : String}
    (hw : ∀ inner us, operand inner (.word w :: us) = some (.identifier, us))
    (hcode : isCode (.word "return" :: methodLexemes w m) (.mark '(') = true)
    {xs : List (List Lexeme)} (hxs : ∀ x ∈ xs, IsArgument x) :
    IsStatement (returnLexemes w m xs) where
  first := ⟨_, _, rfl⟩
  reads cs := reads_callLexemes hcode hxs _
  runs D us hD := by
    obtain ⟨k, rfl⟩ : ∃ k, D = k + 4 :=
      ⟨D - 4, by simp [returnLexemes, callLexemes, methodLexemes] at hD; omega⟩
    obtain ⟨ts, hts⟩ : ∃ ts, ts = .blank " " :: .word w :: .mark '.' :: .word m :: .mark '(' ::
        (commas xs ++ .mark ')' :: .newline :: us) := ⟨_, rfl⟩
    have hcall : exprOrType (upTo (k + 3)) { tail := .line } ts =
        some (.value, .newline :: us) := by
      rw [hts]
      exact exprOrType_method (hw _) m (arguments_commas hxs k _) (by rfl) (by rfl)
    have hexprs : expressions (upTo (k + 4)) { tail := .line } ts = some ((), .newline :: us) :=
      discard_eq (sepList_one (expression_eq hcall rfl) (by rfl))
    have hstop : seesStop .line ts = some (false, ts) := by
      rw [hts]
      rfl
    have hall : returnLexemes w m xs ++ .newline :: us = .word "return" :: ts := by
      rw [returnLexemes, callLexemes_append, hts]
      rfl
    rw [hall, statementAt, bind_eq (show peek .closed _ = some (some (.word "return"), _) from rfl)]
    simp only
    rw [if_neg (by decide),
      bind_eq (discard_eq (show Reader.word _ = some ("return", ts) from rfl)), bind_eq hstop]
    exact hexprs

/-- A variable is declared. -/
def varLexemes (n : String) (ts : List Lexeme) : List Lexeme :=
  .word "var" :: .blank " " :: .word n :: .blank " " :: ts

lemma isStatement_var {n : String} (hn : isWord n = true) {ts : List Lexeme} (ht : IsType ts) :
    IsStatement (varLexemes n ts) where
  first := ⟨_, _, rfl⟩
  reads cs := by
    simp only [varLexemes, readsAll_cons, chars_cons, Lexeme.text, List.append_assoc]
    exact ⟨reads_word (by decide) (isSpaces_one.isIdentPart _),
      isSpaces_one.reads (isSpace_of_isWord hn _), reads_word hn (isSpaces_one.isIdentPart _),
      isSpaces_one.reads (ht.isSpace_head _), ht.reads '\n' cs (.inl rfl)⟩
  runs D us hD := by
    obtain ⟨k, rfl⟩ : ∃ k, D = k + 4 := ⟨D - 4, by simp [varLexemes] at hD; omega⟩
    obtain ⟨vs, hvs⟩ : ∃ vs, vs = .blank " " :: (ts ++ .newline :: us) := ⟨_, rfl⟩
    have hty : type (upTo (k + 4)) .line vs = some ((), .newline :: us) := by
      rw [hvs]
      exact ht.runs k .line _ (ends_newline us)
    obtain ⟨hcomma, hassign⟩ : takes .closed "," vs = some (false, vs) ∧
        takes .closed "=" vs = some (false, vs) := by
      rcases ht.first with ⟨rest, rfl, -⟩ | ⟨x, rest, rfl, rfl | ⟨w, rfl⟩⟩ <;>
        subst hvs <;> exact ⟨rfl, rfl⟩
    have hspec : varSpec (upTo (k + 4)) .line (.blank " " :: .word n :: vs) =
        some ([n], .newline :: us) := by
      rw [varSpec, bind_eq (sepList_one (show Reader.word _ = some (n, vs) from rfl) hcomma),
        bind_eq hassign]
      simp only [Bool.false_eq_true, ite_false]
      rw [bind_eq hty]
      rfl
    have hall : varLexemes n ts ++ .newline :: us = .word "var" :: .blank " " :: .word n :: vs := by
      rw [hvs]
      rfl
    have hdecl : declaration (upTo (k + 4)) .line (.word "var" :: .blank " " :: .word n :: vs) =
        some (.other .vars [n], .newline :: us) := by
      rw [declaration, bind_eq (show Reader.word _ = some ("var", _) from rfl)]
      simp only
      have hs : specs .line (varSpec (upTo (k + 4))) (.blank " " :: .word n :: vs) =
          some ([[n]], .newline :: us) := by
        rw [specs, bind_eq (show takes .closed "(" _ = some (false, _) from rfl)]
        simp only [Bool.false_eq_true, ite_false]
        rw [bind_eq hspec]
        rfl
      rw [bind_eq hs]
      rfl
    rw [hall, statementAt, bind_eq (show peek .closed _ = some (some (.word "var"), _) from rfl)]
    simp only
    rw [if_pos (by decide)]
    exact discard_eq hdecl

lemma simple_value {inner : Inner} {p : Grammar.Place} (hp : IsPlace p)
    (h : exprOrType inner p.left ts = some (.value, us))
    (hop : operator p.tail ("," :: Follow.statement.operators) us = some (none, us)) :
    simple inner p ts = some (.expr false, us) := by
  have hr : range? inner p = pure false := by
    rcases hp with rfl | rfl <;> rfl
  rw [simple, hr, pure_bind, if_neg Bool.false_ne_true, bind_eq h,
    if_neg (show ¬ Reading.value.subject = true from Bool.false_ne_true),
    bind_eq (show Reader.check Reading.value.expr _ = some ((), _) from rfl), bind_eq hop]
  rfl

/-! ### Statements with blocks -/

lemma skips_place (inner : Inner) {p : Grammar.Place} (hp : IsPlace p) : Skips (simple inner p) := by
  have hr : range? inner p = pure false := by
    rcases hp with rfl | rfl <;> rfl
  rw [simple, hr, pure_bind]
  exact (skips_exprOrType inner _).bind

lemma skips_block (inner : Inner) : Skips (block inner) := (skips_mark _).bind

/-- The lexemes of the condition of a block. -/
structure IsCondition (ts : List Lexeme) : Prop where
  reads : ∀ cs, ReadsAll (.blank " " :: ts) (' ' :: cs)
  runs : ∀ k us, (simple (upTo (k + 4)) .condition >>= condition (upTo (k + 4)))
    (.blank " " :: (ts ++ .blank " " :: .mark '\x7b' :: us)) =
      some ((), .blank " " :: .mark '\x7b' :: us)

/-- A statement with the head `ts` in front of its block. -/
def withBlock (n : ℕ) (ts : List Lexeme) (xs : List (List Lexeme)) : List Lexeme :=
  ts ++ .blank " " :: blockLexemes n xs

lemma withBlock_append (n : ℕ) (ts : List Lexeme) (xs : List (List Lexeme)) (us : List Lexeme) :
    withBlock n ts xs ++ us = ts ++ .blank " " :: (blockLexemes n xs ++ us) := by
  simp [withBlock]

def forRows : List Lexeme :=
  [.word "for", .blank " ", .word "rows", .mark '.', .word "Next", .mark '(', .mark ')']

section Blocks

variable {ts : List Lexeme} (n : ℕ) {xs : List (List Lexeme)} (hxs : ∀ x ∈ xs, IsStatement x)

include hxs

lemma reads_withBlock (ht : ∀ cs, ReadsAll ts (' ' :: cs)) (cs : List Char) :
    ReadsAll (withBlock n ts xs) cs := by
  refine readsAll_append.mpr ⟨ht _, isSpaces_one.reads ?_, reads_blockLexemes hxs n _⟩
  rintro c ⟨rfl⟩
  rfl

lemma block_withBlock {D : ℕ} (hD : (withBlock n ts xs).length < D) (us : List Lexeme) :
    block (upTo D) (.blank " " :: (blockLexemes n xs ++ us)) = some ((), us) := by
  have hlen : (blockLexemes n xs).length < D := by
    simp [withBlock] at hD
    omega
  have hb := block_eq hxs n hlen us
  exact (skips_block _ [.blank " "] _ (by simp [isTrivia])).trans hb

/-- A statement under a condition. -/
lemma isStatement_if (ht : IsCondition ts) :
    IsStatement (withBlock n (.word "if" :: .blank " " :: ts) xs) where
  first := ⟨_, _, rfl⟩
  reads cs := by
    refine reads_withBlock n hxs (fun cs => ?_) _
    exact ⟨reads_word (by decide) (isSpaces_one.isIdentPart _), ht.reads cs⟩
  runs D us hD := by
    obtain ⟨k, rfl⟩ : ∃ k, D = k + 4 := ⟨D - 4, by simp [withBlock, blockLexemes] at hD; omega⟩
    have hblock := block_withBlock n hxs hD (.newline :: us)
    have hb : ifRest (upTo (k + 4)) .line = (simple (upTo (k + 4)) .condition >>=
        condition (upTo (k + 4))) >>= fun _ => (do
          block (upTo (k + 4))
          if ← takesWord .line "else" then
            if ← sees .closed "\x7b" then block (upTo (k + 4))
            else
              check (← seesWord .closed "if")
              discard (upTo (k + 4) (.statement .line true))) := by
      rw [bind_assoc]
      rfl
    have hrest : ifRest (upTo (k + 4)) .line
        (.blank " " :: (ts ++ .blank " " :: (blockLexemes n xs ++ .newline :: us))) =
          some ((), .newline :: us) := by
      rw [hb]
      have hcond : (simple (upTo (k + 4)) .condition >>= condition (upTo (k + 4)))
          (.blank " " :: (ts ++ .blank " " :: (blockLexemes n xs ++ .newline :: us))) =
            some ((), .blank " " :: (blockLexemes n xs ++ .newline :: us)) := ht.runs k _
      refine (bind_eq hcond).trans ((bind_eq hblock).trans ?_)
      rfl
    rw [withBlock_append, List.cons_append, List.cons_append, statementAt,
      bind_eq (show peek .closed _ = some (some (.word "if"), _) from rfl)]
    simp only
    rw [if_neg (by decide), bind_eq (discard_eq (show Reader.word _ = some ("if", _) from rfl))]
    exact hrest

/-- A loop over the rows of a result. -/
lemma isStatement_for : IsStatement (withBlock n forRows xs) where
  first := ⟨_, _, rfl⟩
  reads cs := reads_withBlock n hxs
    (readsAll_of_isCode (u := .blank " ") (by decide)) _
  runs D us hD := by
    have hblock := block_withBlock n hxs hD (.newline :: us)
    generalize upTo D = inner at hblock
    obtain ⟨vs, hvs⟩ : ∃ vs, vs = .newline :: (lineLexemes (n + 1) xs ++ (indent n ++
      [.mark '\x7d'])) ++ .newline :: us := ⟨_, rfl⟩
    have hb : blockLexemes n xs ++ .newline :: us = .mark '\x7b' :: vs := hvs ▸ rfl
    rw [hb] at hblock
    have hhead : simple inner .loop (.blank " " :: .word "rows" :: .mark '.' :: .word "Next" ::
        .mark '(' :: .mark ')' :: .blank " " :: .mark '\x7b' :: vs) =
          some (.expr false, .blank " " :: .mark '\x7b' :: vs) := rfl
    rw [withBlock_append, hb, forRows, List.cons_append, statementAt,
      bind_eq (show peek .closed _ = some (some (.word "for"), _) from rfl)]
    simp only
    rw [if_neg (by decide), bind_eq (discard_eq (show Reader.word _ = some ("for", _) from rfl)),
      forRest, bind_eq (show takes .closed ";" _ = some (false, _) from rfl)]
    simp only [Bool.false_eq_true, ite_false]
    rw [bind_eq (show sees .closed "\x7b" _ = some (false, _) from rfl)]
    simp only [Bool.false_eq_true, ite_false]
    refine (bind_eq hhead).trans ?_
    refine (bind_eq (show takes .closed ";" _ = some (false, _) from rfl)).trans ?_
    exact hblock

end Blocks

/-! ### Conditions -/

/-- What asks whether there has been an error. -/
def failed : List Lexeme :=
  [.word "err", .blank " ", .mark '!', .mark '=', .blank " ", .word "nil"]

lemma isCondition_failed : IsCondition failed where
  reads cs := readsAll_of_isCode (u := .blank " ") (by decide) cs
  runs k us := by
    generalize upTo (k + 4) = inner
    rfl

/-- What asks whether the method of `w` that is called gives back an error. -/
def failedCall (w m : String) (xs : List (List Lexeme)) : List Lexeme :=
  defineLexemes [.word "err"] w m xs ++ (.mark ';' :: .blank " " :: failed)

lemma isCondition_failedCall {w m : String}
    (hw : ∀ inner us, operand inner (.word w :: us) = some (.identifier, us))
    (hcode : isCode ([.blank " ", .word "err"] ++ (defines ++ methodLexemes w m))
      (.mark '(') = true)
    {xs : List (List Lexeme)} (hxs : ∀ x ∈ xs, IsArgument x) :
    IsCondition (failedCall w m xs) where
  reads cs := by
    have h := reads_callLexemes hcode hxs (chars (.mark ';' :: .blank " " :: failed) ++ ' ' :: cs)
    change ReadsAll ((.blank " " :: defineLexemes [.word "err"] w m xs) ++ _) _
    refine readsAll_append.mpr ⟨h, ?_⟩
    exact readsAll_of_isCode (u := .blank " ") (by decide) cs
  runs k us := by
    have hp : IsPlace .condition := .inr rfl
    have hs := simple_define (defines_one (.inr rfl)) hw m hxs (k + 1)
      (.mark ';' :: .blank " " :: (failed ++ .blank " " :: .mark '\x7b' :: us)) hp (by rfl)
      (by rfl) (by rfl)
    have hlead := (skips_place (upTo (k + 4)) hp [.blank " "] _ (by simp [isTrivia])).trans hs
    have hall : (.blank " " :: (failedCall w m xs ++ .blank " " :: .mark '\x7b' :: us) :
        List Lexeme) = [.blank " "] ++ (defineLexemes [.word "err"] w m xs ++ .mark ';' ::
          .blank " " :: (failed ++ .blank " " :: .mark '\x7b' :: us)) := by
      simp [failedCall]
    have he : exprOrType (upTo (k + 3)) { braces := false }
        (.blank " " :: (failed ++ .blank " " :: .mark '\x7b' :: us)) =
          some (.value, .blank " " :: .mark '\x7b' :: us) := by
      generalize upTo (k + 3) = inner
      rfl
    rw [hall, bind_eq hlead, condition.eq_def,
      bind_eq (show takes .closed ";" _ = some (true, _) from rfl)]
    exact expression_eq he rfl

/-- What asks whether the bytes of `b` have been read. -/
def nonempty (b : String) : List Lexeme :=
  callLexemes [.word "len"] [[.word b]] ++ [.blank " ", .mark '>', .blank " ", .number "0"]

lemma isArgument_one {b : String} (hb : isTypeName b = true) : ∀ x ∈ [[Lexeme.word b]],
    IsArgument x := by
  simpa using isArgument_word hb

lemma isCondition_nonempty {b : String} (hb : isTypeName b = true) : IsCondition (nonempty b) where
  reads cs := by
    have hcode : isCode [.blank " ", .word "len"] (.mark '(') = true := by decide
    have h := reads_callLexemes hcode (isArgument_one hb)
      (chars [.blank " ", .mark '>', .blank " ", .number "0"] ++ ' ' :: cs)
    change ReadsAll ((.blank " " :: callLexemes [.word "len"] [[.word b]]) ++ _) _
    refine readsAll_append.mpr ⟨h, ?_⟩
    exact readsAll_of_isCode (u := .blank " ") (by decide) cs
  runs k us := by
    obtain ⟨vs, hvs⟩ : ∃ vs : List Lexeme, vs = .blank " " :: .mark '>' :: .blank " " ::
      .number "0" :: .blank " " :: .mark '\x7b' :: us := ⟨_, rfl⟩
    have hargs := arguments_commas (isArgument_one hb) (k + 1) vs
    have hcall : unary (upTo (k + 4)) Grammar.Place.condition.left
        (.word "len" :: .mark '(' :: (commas [[.word b]] ++ .mark ')' :: vs)) = some (.value, vs) :=
      unary_call (fun _ => rfl) hargs (by rw [hvs]; rfl)
    have hlead := (skips_unary (upTo (k + 4)) Grammar.Place.condition.left [.blank " "] _
      (by simp [isTrivia])).trans hcall
    have hbinary : binaryUpTo (upTo (k + 4)) Grammar.Place.condition.left vs.length .value vs =
        some (.value, .blank " " :: .mark '\x7b' :: us) := by
      generalize upTo (k + 4) = inner
      rw [hvs]
      rfl
    have he : exprOrType (upTo (k + 4)) Grammar.Place.condition.left
        ([.blank " "] ++ .word "len" :: .mark '(' :: (commas [[.word b]] ++ .mark ')' :: vs)) =
          some (.value, .blank " " :: .mark '\x7b' :: us) := by
      rw [exprOrType, bind_eq hlead]
      exact hbinary
    have hall : (.blank " " :: (nonempty b ++ .blank " " :: .mark '\x7b' :: us) : List Lexeme) =
        [.blank " "] ++ .word "len" :: .mark '(' :: (commas [[.word b]] ++ .mark ')' :: vs) := by
      rw [nonempty, List.append_assoc, callLexemes_append, hvs]
      rfl
    have hp : IsPlace .condition := .inr rfl
    rw [hall, bind_eq (simple_value hp he (by rfl))]
    rfl

/-! ### Fixed lines -/

/-- The lexemes of a line that gives back `x` and `y`. -/
def returnPair (x y : String) : List Lexeme :=
  [.word "return", .blank " ", .word x, .mark ',', .blank " ", .word y]

def returnErr : List Lexeme := [.word "return", .blank " ", .word "err"]

def closeRows : List Lexeme :=
  [.word "defer", .blank " ", .word "rows", .mark '.', .word "Close", .mark '(', .mark ')']

def appendItem : List Lexeme :=
  [.word "items", .blank " ", .mark '=', .blank " ", .word "append", .mark '(', .word "items",
    .mark ',', .blank " ", .word "i", .mark ')']

/-- The lines that are the same in all functions. -/
def fixedLines : List (List Lexeme) :=
  [returnPair "i" "err", returnPair "i" "nil", returnPair "nil" "err", returnPair "items" "nil",
    returnErr, closeRows, appendItem]

lemma isStatement_fixed {ts : List Lexeme} (h : ts ∈ fixedLines) : IsStatement ts where
  first := by
    fin_cases h <;> exact ⟨_, _, rfl⟩
  reads cs := by
    have hall : ∀ us ∈ fixedLines, isCode us .newline = true := by decide
    exact readsAll_of_isCode (hall ts h) cs
  runs D us hD := by
    have hlen : ∀ us ∈ fixedLines, 3 ≤ us.length := by decide
    obtain ⟨k, rfl⟩ : ∃ k, D = k + 4 := ⟨D - 4, by have := hlen ts h; omega⟩
    generalize hi : upTo (k + 2) = inner
    have hl : upTo (k + 4) = level (level inner) := by rw [← hi]; rfl
    rw [hl]
    fin_cases h <;> rfl

end SchemaGo.Go
