import Mathlib
import SchemaGo.Proofs.Go.Statements
import SchemaGo.Proofs.Go.GeneratedItems

/-!
Generated functions and string constants are read back: a function with parameters, results and
a body that are read in their places declares its name, and so does a constant.
-/

namespace SchemaGo.Go

open Grammar Reader Lexeme

variable {ts us : List Lexeme}

/-! ### Results -/

/-- The lexemes of the results of a function, in front of its body. -/
structure IsResult (ts : List Lexeme) : Prop where
  reads : ∀ cs, ReadsAll (.blank " " :: ts) (' ' :: cs)
  runs : ∀ k us,
    results (upTo (k + 4)) .line (.blank " " :: (ts ++ .blank " " :: .mark '\x7b' :: us)) =
      some ((), .blank " " :: .mark '\x7b' :: us)

lemma isResult_error : IsResult [.word "error"] where
  reads cs := readsAll_of_isCode (u := .blank " ") (by decide +kernel) cs
  runs k us := by
    generalize hi : upTo (k + 2) = inner
    have hl : upTo (k + 4) = level (level inner) := by rw [← hi]; rfl
    rw [hl]
    rfl

lemma isResult_list {xs : List (List Lexeme)} (h : ∀ x ∈ xs, IsParameter x) :
    IsResult (.mark '(' :: (commas xs ++ [.mark ')'])) where
  reads cs := by
    refine ⟨isSpaces_one.reads ?_, reads_mark (by rfl) _, readsAll_append.mpr
      ⟨reads_commas h _, reads_mark (by rfl) _, trivial⟩⟩
    rintro c ⟨rfl⟩
    rfl
  runs k us := by
    have hp := parameters_commas h k (.blank " " :: .mark '\x7b' :: us)
    have hs := (skips_parameters (upTo (k + 4)) [.blank " "] _ (by simp [isTrivia])).trans hp
    have hall : (.blank " " :: (.mark '(' :: (commas xs ++ [.mark ')']) ++ .blank " " ::
        .mark '\x7b' :: us) : List Lexeme) = [.blank " "] ++ .mark '(' :: (commas xs ++
          .mark ')' :: .blank " " :: .mark '\x7b' :: us) := by
      simp
    rw [hall, results, bind_eq (show sees .line "(" _ = some (true, _) from rfl)]
    exact hs

/-! ### Functions -/

/-- The lexemes of a function behind its keyword. -/
def functionLexemes (name : String) (params : List (List Lexeme)) (result : List Lexeme)
    (body : List (List Lexeme)) : List Lexeme :=
  [.blank " ", .word name, .mark '('] ++ (commas params ++ .mark ')' :: .blank " " ::
    (result ++ .blank " " :: blockLexemes 0 body))

/-- A function is an item with its qualifiers. -/
lemma item_function {inner : Inner} {its us : List Lexeme} {shape : Shape}
    (h : functionItem inner (.word "func" :: its ++ us) = some (shape, us)) :
    item inner (.word "func" :: its ++ us) =
      some ((.decl shape (qualifiersFrom false (.word "func" :: its)), true), us) := by
  have ht : (.word "func" :: its ++ us).take ((.word "func" :: its ++ us).length - us.length) =
      .word "func" :: its := List.take_left' (by simp; omega)
  -- a function comes first, before a method and a statement are tried
  obtain ⟨others, hi⟩ : ∃ others, item inner (.word "func" :: its ++ us) =
      ((functionItem inner (.word "func" :: its ++ us)).bind (fun r =>
        some ((Item.decl r.1 (qualifiersFrom false ((.word "func" :: its ++ us).take
          ((.word "func" :: its ++ us).length - r.2.length))), true), r.2)) <|> others) :=
    ⟨_, rfl⟩
  rw [hi, h, Option.bind_some, ht]
  rfl

section Function

variable {name : String} {params : List (List Lexeme)} {result : List Lexeme}
  {body : List (List Lexeme)} (hparams : ∀ x ∈ params, IsParameter x) (hresult : IsResult result)
  (hbody : ∀ x ∈ body, IsStatement x)

include hparams hresult hbody

lemma functionItem_eq {D : ℕ} (hD : (functionLexemes name params result body).length < D)
    (us : List Lexeme) :
    functionItem (upTo D) (.word "func" :: functionLexemes name params result body ++ us) =
      some (.other .function [name], us) := by
  have hlen : (blockLexemes 0 body).length < D := by
    simp [functionLexemes] at hD
    omega
  have hblock := block_eq hbody 0 hlen us
  obtain ⟨k, rfl⟩ : ∃ k, D = k + 4 := ⟨D - 4, by simp [functionLexemes] at hD; omega⟩
  obtain ⟨vs, hvs⟩ : ∃ vs, blockLexemes 0 body ++ us = .mark '\x7b' :: vs := ⟨_, rfl⟩
  rw [hvs] at hblock
  have hblock := (skips_block _ [.blank " "] _ (by simp [isTrivia])).trans hblock
  have hp := parameters_commas hparams k
    (.blank " " :: (result ++ .blank " " :: .mark '\x7b' :: vs))
  have hr := hresult.runs k vs
  have hall : .word "func" :: functionLexemes name params result body ++ us = .word "func" ::
      .blank " " :: .word name :: .mark '(' :: (commas params ++ .mark ')' :: .blank " " ::
        (result ++ .blank " " :: .mark '\x7b' :: vs)) := by
    simp [functionLexemes, hvs]
  generalize upTo (k + 4) = inner at hblock hp hr ⊢
  have hrest : functionRest inner (.mark '(' :: (commas params ++ .mark ')' :: .blank " " ::
      (result ++ .blank " " :: .mark '\x7b' :: vs))) = some ((), us) := by
    rw [functionRest, bind_eq hp, bind_eq hr,
      bind_eq (show sees .line "\x7b" _ = some (true, _) from rfl)]
    exact hblock
  rw [hall, functionItem,
    bind_eq (discard_eq (show Reader.word _ = some ("func", _) from rfl)),
    bind_eq (show Reader.word _ = some (name, _) from rfl),
    bind_eq (show takes .closed "[" _ = some (false, _) from rfl)]
  simp only [Bool.false_eq_true, ite_false]
  refine (bind_eq hrest).trans ?_
  rfl

/-- **A generated function is read back**, whatever its arguments and its body. -/
theorem readsAs_function (hn : isWord name = true) :
    ∃ qualifiers, ReadsAs (spell (.word "func" :: functionLexemes name params result body))
      (.other .function [name]) qualifiers := by
  refine ⟨qualifiersFrom false (.word "func" :: functionLexemes name params result body),
    .word "func", functionLexemes name params result body, [], true, rfl, by simp,
    beside_nil, fun cs => ?_, fun D us hD => ?_⟩
  · rw [List.append_nil]
    simp only [functionLexemes, List.cons_append, List.nil_append, readsAll_cons, chars_cons,
      Lexeme.text, List.append_assoc]
    refine ⟨reads_word (by decide +kernel) (isSpaces_one.isIdentPart _),
      isSpaces_one.reads (isSpace_of_isWord hn _), reads_word hn ?_, reads_mark (by rfl) _,
      readsAll_append.mpr ⟨reads_commas hparams _, reads_mark (by rfl) _, ?_⟩⟩
    · rintro c ⟨rfl⟩
      rfl
    · change ReadsAll ((.blank " " :: result) ++ _) _
      refine readsAll_append.mpr ⟨hresult.reads _, isSpaces_one.reads ?_,
        reads_blockLexemes hbody 0 _⟩
      rintro c ⟨rfl⟩
      rfl
  · exact item_function (functionItem_eq hparams hresult hbody
      (by simp at hD; omega) (.newline :: us))

end Function

/-! ### Constants -/

/-- **The constant of a statement is read back**, whatever the statement. -/
theorem readsAs_constant {name : String} (hn : isWord name = true) (sql : String) :
    ∃ qualifiers, ReadsAs ("const " ++ name ++ " = " ++ sqlLiteral sql)
      (.consts [⟨[name], none⟩]) qualifiers := by
  obtain ⟨its, hits⟩ : ∃ its : List Lexeme, its = [.blank " ", .word name, .blank " ", .mark '=',
    .blank " ", .string (sqlLiteral sql)] := ⟨_, rfl⟩
  have hspell : "const " ++ name ++ " = " ++ sqlLiteral sql = spell (.word "const" :: its) := by
    apply String.toList_injective
    simp [toList_spell_eq_chars, hits, Lexeme.text]
  rw [hspell]
  refine ⟨_, readsAs_of_declaration (.inr rfl) ?_ ?_⟩
  · intro cs
    simp only [hits, readsAll_cons, chars_cons, chars_nil, Lexeme.text, List.append_assoc,
      List.nil_append]
    refine ⟨reads_word (by decide +kernel) (isSpaces_one.isIdentPart _),
      isSpaces_one.reads (isSpace_of_isWord hn _), reads_word hn (isSpaces_one.isIdentPart _),
      isSpaces_one.reads ?_, reads_mark (by rfl) _, isSpaces_one.reads (sqlLiteral_head sql _),
      reads_sqlLiteral sql _, trivial⟩
    rintro c ⟨rfl⟩
    rfl
  · intro D us hD
    obtain ⟨k, rfl⟩ : ∃ k, D = k + 2 := ⟨D - 2, by simp [hits] at hD; omega⟩
    rw [hits]
    generalize sqlLiteral sql = literal
    rfl

end SchemaGo.Go
