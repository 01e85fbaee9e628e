import Mathlib
import SchemaGo.Go.Generated
import SchemaGo.Proofs.Go.Literal
import SchemaGo.Proofs.Go.Rows

/-!
Generated declarations are read back: the structs, the string types and the blocks of constants
that are printed for legal names have the shapes they are printed for.
-/

namespace SchemaGo.Go

open Grammar Reader Lexeme

/-! ### Structs -/

/-- The field has a name and a type that are read back. -/
def Field.Legal : Field → Prop
  | .named n t => isWord n = true ∧ ∃ ts, IsType ts ∧ spell ts = t
  | .embedded t => isWord t = true

/-- The blanks behind a name in a column of a width. -/
def filler (width : ℕ) (name : String) : String :=
  String.ofList (List.replicate (width - name.length) ' ') ++ " "

lemma isSpaces_filler (width : ℕ) (name : String) : IsSpaces (filler width name) := by
  constructor
  · simp [filler]
  · intro c hc
    simp only [filler, String.toList_append, String.toList_ofList, List.mem_append,
      List.mem_replicate] at hc
    rcases hc with ⟨-, rfl⟩ | hc
    · exact .inl rfl
    · exact .inl (by simpa using hc)

lemma padded_filler (width : ℕ) (name s : String) :
    Text.padded width name ++ (" " ++ s) = name ++ (filler width name ++ s) := by
  simp [Text.padded, filler, String.append_assoc]

lemma isRow_named {n : String} (hn : isWord n = true) {ts : List Lexeme} (ht : IsType ts)
    (width : ℕ) :
    IsRow '\x7d' (fun k => field (upTo (k + 4))) (fieldLine width (.named n (spell ts))) [n]
      (.blank "\t" :: .word n :: .blank (filler width n) :: ts) where
  spells := by
    simp only [spell_append, spell_cons, spell_nil, Lexeme.text, fieldLine,
      String.append_assoc, String.append_empty, padded_filler]
  reads cs := by
    simp only [readsAll_cons, chars_cons, Lexeme.text, List.append_assoc]
    refine ⟨isSpaces_tab.reads ?_, reads_word hn ?_, (isSpaces_filler width n).reads ?_,
      ht.reads '\n' cs (.inl rfl)⟩
    · exact isSpace_of_isWord hn _
    · exact (isSpaces_filler width n).isIdentPart _
    · exact ht.isSpace_head _
  row k us lead hl := by
    have hl' : ∀ u ∈ lead ++ [.blank "\t"], isTrivia u = true := by
      intro u hu
      rcases List.mem_append.mp hu with hu | hu
      · exact hl u hu
      · simp_all [isTrivia]
    have h₁ := sees_word hl' n (.blank (filler width n) :: (ts ++ .newline :: us))
      (show (String.singleton '\x7d').toList ≠ [] by simp)
    have h₂ := field_named hl' n us ht (filler width n) k
    simp only [List.append_assoc, List.cons_append, List.nil_append] at h₁ h₂ ⊢
    exact ⟨h₁, h₂⟩

lemma isRow_embedded {n : String} (hn : isWord n = true) (width : ℕ) :
    IsRow '\x7d' (fun k => field (upTo (k + 4))) (fieldLine width (.embedded n)) [n]
      [.blank "\t", .word n] where
  spells := by simp [spell_cons, Lexeme.text, fieldLine, String.append_assoc]
  reads cs := by
    simp only [readsAll_cons, chars_cons, Lexeme.text, List.append_assoc]
    refine ⟨isSpaces_tab.reads (isSpace_of_isWord hn _), reads_word hn ?_, trivial⟩
    rintro c ⟨rfl⟩
    rfl
  row k us lead hl := by
    have hl' : ∀ u ∈ lead ++ [.blank "\t"], isTrivia u = true := by
      intro u hu
      rcases List.mem_append.mp hu with hu | hu
      · exact hl u hu
      · simp_all [isTrivia]
    have h₁ := sees_word hl' n (.newline :: us)
      (show (String.singleton '\x7d').toList ≠ [] by simp)
    have h₂ := field_embedded hl' n us (upTo (k + 4))
    simp only [List.append_assoc, List.cons_append, List.nil_append] at h₁ h₂ ⊢
    exact ⟨h₁, h₂⟩

/-- Without a star and a point, a type is its own name where a struct embeds it. -/
lemma embeddedName_eq_self {s : String} (h : ∀ c ∈ s.toList, c ≠ '*' ∧ c ≠ '.') :
    embeddedName s = s := by
  have hstar : s.toList.dropWhile (· == '*') = s.toList := by
    rcases hs : s.toList with _ | ⟨c, rest⟩
    · rfl
    · exact List.dropWhile_cons_of_neg (by simpa using (h c (by simp [hs])).1)
  have hpoint : ∀ c ∈ s.toList.reverse, (c != '.') = true := fun c hc =>
    bne_iff_ne.mpr (h c (List.mem_reverse.mp hc)).2
  rw [embeddedName, hstar, List.takeWhile_eq_self_iff.mpr hpoint, List.reverse_reverse,
    String.ofList_toList]

lemma embeddedName_of_isWord {s : String} (h : isWord s = true) : embeddedName s = s := by
  obtain ⟨c, rest, hs, hc, hrest⟩ := isWord_eq_true h
  refine embeddedName_eq_self fun d hd => ?_
  rw [hs] at hd
  refine ⟨?_, ?_⟩ <;> rintro rfl <;> rcases List.mem_cons.mp hd with rfl | hd
  · exact absurd hc (by decide +kernel)
  · exact absurd (hrest _ hd) (by decide +kernel)
  · exact absurd hc (by decide +kernel)
  · exact absurd (hrest _ hd) (by decide +kernel)

lemma Field.Legal.isRow {f : Field} (hf : f.Legal) (width : ℕ) :
    ∃ ts, IsRow '\x7d' (fun k => field (upTo (k + 4))) (fieldLine width f) [f.address] ts := by
  cases f with
  | named n t =>
    obtain ⟨hn, ts, ht, rfl⟩ := hf
    exact ⟨_, isRow_named hn ht width⟩
  | embedded t =>
    rw [Field.address, embeddedName_of_isWord hf]
    exact ⟨_, isRow_embedded hf width⟩

/-- A declaration is an item with its qualifiers. -/
lemma item_declaration {inner : Inner} {w : String} (hw : w = "type" ∨ w = "const")
    {its us : List Lexeme} {shape : Shape}
    (h : declaration inner .line (.word w :: its ++ us) = some (shape, us)) :
    item inner (.word w :: its ++ us) =
      some ((.decl shape (qualifiersFrom false (.word w :: its)), false), us) := by
  have hs : statementShape inner (.word w :: its ++ us) = some (shape, us) := by
    rcases hw with rfl | rfl <;> exact h
  have ht : (.word w :: its ++ us).take ((.word w :: its ++ us).length - us.length) =
      .word w :: its := List.take_left' (by simp; omega)
  have hi : item inner (.word w :: its ++ us) =
      (statementShape inner (.word w :: its ++ us)).bind fun r =>
        some ((Item.decl r.1 (qualifiersFrom false ((.word w :: its ++ us).take
          ((.word w :: its ++ us).length - r.2.length))), false), r.2) := by
    rcases hw with rfl | rfl <;> rfl
  rw [hi, hs, Option.bind_some, ht]

/-- The lexemes of a struct whose body has the lexemes `rows`. -/
def structLexemes (name : String) (rows : List Lexeme) : List Lexeme :=
  [.blank " ", .word name, .blank " ", .word "struct", .blank " ", .mark '\x7b', .newline] ++
    (rows ++ [.mark '\x7d'])

/-- A type declaration without parentheses is its only specification. -/
lemma declaration_type {inner : Inner} {spec : TypeSpec} {ts us : List Lexeme}
    (hp : takes .closed "(" ts = some (false, ts)) (h : typeSpec inner .line ts = some (spec, us)) :
    declaration inner .line (.word "type" :: ts) = some (typeShape [spec], us) := by
  have hs : specs .line (typeSpec inner) ts = some ([spec], us) := by
    rw [specs, bind_eq hp]
    simp only [Bool.false_eq_true, ite_false]
    rw [bind_eq h]
    rfl
  rw [declaration, bind_eq (show Reader.word _ = some ("type", ts) from rfl)]
  simp only
  rw [bind_eq hs]
  rfl

lemma typeSpec_struct (name : String) {rows : List Lexeme} {fs : List (List String)} {D : ℕ}
    {us lead : List Lexeme} (hl : ∀ t ∈ lead, isTrivia t = true) (hn : fs.length ≤ rows.length)
    (h : Rows "\x7d" (field (upTo D)) (.newline :: (rows ++ .mark '\x7d' :: us)) fs
      (lead ++ .mark '\x7d' :: us)) :
    typeSpec (upTo D) .line (structLexemes name rows ++ us) =
      some (.struct name fs.flatten, us) := by
  have hf : fields (upTo D)
      (.blank " " :: .mark '\x7b' :: .newline :: (rows ++ .mark '\x7d' :: us)) =
        some (fs.flatten, us) := by
    rw [fields, bind_eq (show Reader.mark "\x7b" _ = some ((), _) from rfl),
      bind_eq (lines_eq h (by simp; omega) (mark_trivia hl '\x7d' us))]
    rfl
  have ht : structLexemes name rows ++ us = .blank " " :: .word name :: .blank " " ::
      .word "struct" :: .blank " " :: .mark '\x7b' :: .newline :: (rows ++ .mark '\x7d' :: us) := by
    simp [structLexemes]
  rw [ht, typeSpec, bind_eq (show Reader.word _ = some (name, _) from rfl),
    bind_eq (show takes .closed "=" _ = some (false, _) from rfl)]
  simp only [Bool.false_eq_true, ite_false]
  rw [bind_eq (show sees .closed "[" _ = some (false, _) from rfl),
    bind_eq (show seesArray (upTo D) _ = some (false, _) from rfl)]
  simp only [Bool.false_and, Bool.false_eq_true, ite_false]
  rw [bind_eq (show takesWord .closed "struct" _ = some (true, _) from rfl)]
  simp only [ite_true]
  rw [bind_eq hf]
  rfl

/-- What is read in front of any line break is a declaration. -/
lemma readsAs_of_declaration {w : String} (hw : w = "type" ∨ w = "const") {its : List Lexeme}
    {shape : Shape} (hr : ∀ cs, ReadsAll (.word w :: its) ('\n' :: cs))
    (h : ∀ D us, its.length < D →
      declaration (upTo D) .line (.word w :: its ++ .newline :: us) =
        some (shape, .newline :: us)) :
    ReadsAs (spell (.word w :: its)) shape (qualifiersFrom false (.word w :: its)) := by
  refine ⟨.word w, its, [], false, rfl, by simp, beside_nil, by simpa using hr, ?_⟩
  intro D us hD
  exact item_declaration hw (h D us (by simp at hD; omega))

lemma reads_structLexemes {name : String} (hn : isWord name = true) {rows : List Lexeme}
    (hr : ∀ cs, ReadsAll rows cs) (cs : List Char) :
    ReadsAll (.word "type" :: structLexemes name rows) cs := by
  have hone : ∀ cs : List Char, ∀ c ∈ (" ".toList ++ cs).head?, Unicode.isIdentPart c = false :=
    isSpaces_one.isIdentPart
  have hs : isWord "struct" = true := by decide +kernel
  rw [structLexemes, List.cons_append, List.cons_append]
  simp only [List.cons_append, List.nil_append, readsAll_cons, readsAll_append, chars_cons,
    Lexeme.text, List.append_assoc]
  refine ⟨reads_word (by decide +kernel) (hone _), isSpaces_one.reads (isSpace_of_isWord hn _),
    reads_word hn (hone _), isSpaces_one.reads (isSpace_of_isWord hs _), reads_word hs (hone _),
    isSpaces_one.reads ?_, reads_mark (by rfl) _, reads_newline _, hr _, reads_mark (by rfl) _,
    trivial⟩
  rintro c ⟨rfl⟩
  rfl

lemma readsAs_renderStruct {name : String} {fs : List Field} (hn : isWord name = true)
    (hf : ∀ f ∈ fs, f.Legal) :
    ∃ row : Field → List Lexeme, ReadsAs (renderStruct name fs) (structShape name fs)
      (qualifiersFrom false (.word "type" :: structLexemes name (rowLexemes row fs))) := by
  obtain ⟨width, hw⟩ : ∃ width, renderStruct name fs =
      "type" ++ " " ++ name ++ " struct \x7b\n" ++ String.join (fs.map (fieldLine width)) ++
        "\x7d" := ⟨_, rfl⟩
  choose! row hrow using fun f hf' => (hf f hf').isRow width
  refine ⟨row, ?_⟩
  have hspell : renderStruct name fs =
      spell (.word "type" :: structLexemes name (rowLexemes row fs)) := by
    have hrows := congrArg String.toList (spell_rowLexemes hrow)
    rw [toList_spell_eq_chars] at hrows
    apply String.toList_injective
    simp [hw, toList_spell_eq_chars, structLexemes, Lexeme.text, hrows]
  rw [hspell]
  refine readsAs_of_declaration (.inl rfl)
    (fun cs => reads_structLexemes hn (reads_rowLexemes hrow) _) ?_
  intro D us hD
  obtain ⟨k, rfl⟩ : ∃ k, D = k + 4 := ⟨D - 4, by simp [structLexemes] at hD; omega⟩
  obtain ⟨lead, hl, hrows⟩ :=
    rows_rowLexemes hrow k (.newline :: us) [.newline] (by simp [isTrivia])
  have hlen : (fs.map fun f => [f.address]).length ≤ (rowLexemes row fs).length := by
    simpa using length_le_rowLexemes
  have ht := typeSpec_struct name hl hlen hrows
  rw [List.cons_append, declaration_type (by rfl) ht]
  rw [← List.flatMap_def, ← List.map_eq_flatMap]
  rfl

/-- **A generated struct is read back**, with the fields it is printed for. -/
theorem readsAs_struct {name : String} {fs : List Field} (hn : isWord name = true)
    (hf : ∀ f ∈ fs, f.Legal) :
    ∃ qualifiers, ReadsAs (renderStruct name fs) (structShape name fs) qualifiers := by
  obtain ⟨row, h⟩ := readsAs_renderStruct hn hf
  exact ⟨_, h⟩

lemma readsAs_emptyStruct {name : String} (hn : isWord name = true) :
    ReadsAs (renderStruct name []) (structShape name []) [] := by
  obtain ⟨row, h⟩ := readsAs_renderStruct hn (show ∀ f ∈ ([] : List Field), f.Legal by simp)
  exact h

/-! ### String types -/

lemma typeSpec_string (name : String) (k : ℕ) (us : List Lexeme) :
    typeSpec (upTo (k + 1)) .line
      (.blank " " :: .word name :: .blank " " :: .word "string" :: .newline :: us) =
        some (.named name "string", .newline :: us) := by
  have hs : type (upTo (k + 1)) .line ([.word "string"] ++ .newline :: us) =
      some ((), .newline :: us) := rfl
  rw [typeSpec, bind_eq (show Reader.word _ = some (name, _) from rfl),
    bind_eq (show takes .closed "=" _ = some (false, _) from rfl)]
  simp only [Bool.false_eq_true, ite_false]
  rw [bind_eq (show sees .closed "[" _ = some (false, _) from rfl),
    bind_eq (show seesArray (upTo (k + 1)) _ = some (false, _) from rfl)]
  simp only [Bool.false_and, Bool.false_eq_true, ite_false]
  rw [bind_eq (show takesWord .closed "struct" _ = some (false, _) from rfl)]
  simp only [Bool.false_eq_true, ite_false]
  rw [bind_eq (spelled_eq (by rfl) hs)]
  rfl

lemma readsAs_stringType {name : String} (hn : isWord name = true) :
    ReadsAs ("type " ++ name ++ " string") (.named name "string") [] := by
  have hs : isWord "string" = true := by decide +kernel
  have hspell : "type " ++ name ++ " string" =
      spell [.word "type", .blank " ", .word name, .blank " ", .word "string"] := by
    apply String.toList_injective
    simp [toList_spell_eq_chars, Lexeme.text]
  rw [hspell]
  refine readsAs_of_declaration (.inl rfl) ?_ ?_
  · intro cs
    simp only [readsAll_cons, chars_cons, chars_nil, Lexeme.text, List.append_assoc,
      List.nil_append]
    refine ⟨reads_word (by decide +kernel) (isSpaces_one.isIdentPart _),
      isSpaces_one.reads (isSpace_of_isWord hn _), reads_word hn (isSpaces_one.isIdentPart _),
      isSpaces_one.reads (isSpace_of_isWord hs _), reads_word hs ?_, trivial⟩
    rintro c ⟨rfl⟩
    rfl
  · intro D us hD
    obtain ⟨k, rfl⟩ : ∃ k, D = k + 1 := ⟨D - 1, by simp at hD; omega⟩
    exact declaration_type (by rfl) (typeSpec_string name k us)

/-! ### Constants -/

lemma constSpec_member {lead : List Lexeme} (hl : ∀ t ∈ lead, isTrivia t = true)
    {type : String} (ht : type ∉ typeKeywords) (n b literal : String) (k : ℕ) (us : List Lexeme) :
    constSpec (upTo (k + 1)) .line (lead ++ .word n :: .blank b :: .word type :: .blank " " ::
      .mark '=' :: .blank " " :: .string literal :: .newline :: us) =
        some (⟨[n], some type⟩, .newline :: us) := by
  obtain ⟨rest, hrest⟩ : ∃ rest : List Lexeme, rest = .blank " " :: .mark '=' :: .blank " " ::
    .string literal :: .newline :: us := ⟨_, rfl⟩
  have hty : Grammar.type (upTo (k + 1)) .closed ([.word type] ++ rest) = some ((), rest) := by
    subst hrest
    exact runsAsType_name ht k .closed _ ⟨rfl, rfl⟩
  rw [← hrest, constSpec, bind_eq (sepList_one (word_trivia hl n _) (by rfl)),
    bind_eq (show takes .line "=" _ = some (false, _) from rfl)]
  simp only [Bool.false_eq_true, ite_false]
  rw [bind_eq (show seesType .line _ = some (true, _) from rfl)]
  simp only [ite_true]
  rw [bind_eq (spelled_eq (by rfl) hty)]
  subst hrest
  rfl

/-- The lexemes of the line of a constant. -/
def memberLexemes (width : ℕ) (type : String) (m : Member) : List Lexeme :=
  [.blank "\t", .word m.name, .blank (filler width m.name), .word type, .blank " ", .mark '=',
    .blank " ", .string (stringLiteral m.value)]

lemma isRow_member {type : String} (ht : isTypeName type = true) {m : Member}
    (hm : isWord m.name = true) (width : ℕ) :
    IsRow ')' (fun k => constSpec (upTo (k + 1)) .line) (memberLine width type m)
      ⟨[m.name], some type⟩ (memberLexemes width type m) where
  spells := by
    apply String.toList_injective
    simp [toList_spell_eq_chars, memberLexemes, Lexeme.text, memberLine, Text.padded, filler]
  reads cs := by
    obtain ⟨hw, -⟩ := Bool.and_eq_true_iff.mp ht
    simp only [memberLexemes, readsAll_cons, chars_cons, chars_nil, Lexeme.text, List.append_assoc,
      List.nil_append]
    refine ⟨isSpaces_tab.reads (isSpace_of_isWord hm _),
      reads_word hm ((isSpaces_filler width m.name).isIdentPart _),
      (isSpaces_filler width m.name).reads (isSpace_of_isWord hw _),
      reads_word hw (isSpaces_one.isIdentPart _), isSpaces_one.reads ?_, reads_mark (by rfl) _,
      isSpaces_one.reads ?_, reads_stringLiteral _ _, trivial⟩
    · rintro c ⟨rfl⟩
      rfl
    · intro c hc
      obtain rfl : '"' = c := by simpa [stringLiteral] using hc
      rfl
  row k us lead hl := by
    have hl' : ∀ u ∈ lead ++ [.blank "\t"], isTrivia u = true := by
      intro u hu
      rcases List.mem_append.mp hu with hu | hu
      · exact hl u hu
      · simp_all [isTrivia]
    have hk : type ∉ typeKeywords := by simpa using (Bool.and_eq_true_iff.mp ht).2
    have h₁ := sees_word hl' m.name (.blank (filler width m.name) :: .word type :: .blank " " ::
      .mark '=' :: .blank " " :: .string (stringLiteral m.value) :: .newline :: us)
      (show (String.singleton ')').toList ≠ [] by simp)
    have h₂ := constSpec_member hl' hk m.name (filler width m.name) (stringLiteral m.value) k us
    simp only [List.append_assoc, List.cons_append, List.nil_append] at h₁ h₂ ⊢
    exact ⟨h₁, h₂⟩

/-- The lexemes of a block of constants whose lines have the lexemes `rows`. -/
def constLexemes (rows : List Lexeme) : List Lexeme :=
  [.blank " ", .mark '(', .newline] ++ (rows ++ [.mark ')'])

lemma declaration_consts {rows : List Lexeme} {cs : List ConstSpec} {D : ℕ}
    {us lead : List Lexeme} (hl : ∀ t ∈ lead, isTrivia t = true) (hn : cs.length ≤ rows.length)
    (h : Rows ")" (constSpec (upTo D) .line) (.newline :: (rows ++ .mark ')' :: us)) cs
      (lead ++ .mark ')' :: us)) :
    declaration (upTo D) .line (.word "const" :: constLexemes rows ++ us) =
      some (.consts cs, us) := by
  have hs : specs .line (constSpec (upTo D))
      (.blank " " :: .mark '(' :: .newline :: (rows ++ .mark ')' :: us)) = some (cs, us) := by
    rw [specs, bind_eq (show takes .closed "(" _ = some (true, _) from rfl)]
    simp only [ite_true]
    exact fullLines_eq h (by simp; omega) (mark_trivia hl ')' us)
  have ht : constLexemes rows ++ us =
      .blank " " :: .mark '(' :: .newline :: (rows ++ .mark ')' :: us) := by
    simp [constLexemes]
  rw [List.cons_append, ht, declaration,
    bind_eq (show Reader.word _ = some ("const", _) from rfl)]
  simp only
  rw [bind_eq hs]
  rfl

/-- **A generated block of constants is read back**, whatever the values of the enum. -/
theorem readsAs_consts {type : String} {members : List Member} (ht : isTypeName type = true)
    (hm : ∀ m ∈ members, isWord m.name = true) :
    ∃ qualifiers, ReadsAs (renderConsts type members) (constsShape type members) qualifiers := by
  obtain ⟨width, hw⟩ : ∃ width, renderConsts type members =
      "const (\n" ++ String.join (members.map (memberLine width type)) ++ ")" := ⟨_, rfl⟩
  have hrow := fun m h => isRow_member ht (hm m h) width
  have hspell : renderConsts type members =
      spell (.word "const" :: constLexemes (rowLexemes (memberLexemes width type) members)) := by
    have hrows := congrArg String.toList (spell_rowLexemes hrow)
    rw [toList_spell_eq_chars] at hrows
    apply String.toList_injective
    simp [hw, toList_spell_eq_chars, constLexemes, Lexeme.text, hrows]
  rw [hspell]
  refine ⟨_, readsAs_of_declaration (.inr rfl) ?_ ?_⟩
  · intro cs
    rw [constLexemes, List.cons_append, List.cons_append]
    simp only [List.cons_append, List.nil_append, readsAll_cons, readsAll_append, chars_cons,
      Lexeme.text, List.append_assoc]
    refine ⟨reads_word (by decide +kernel) (isSpaces_one.isIdentPart _), isSpaces_one.reads ?_,
      reads_mark (by rfl) _, reads_newline _, reads_rowLexemes hrow _, reads_mark (by rfl) _,
      trivial⟩
    rintro c ⟨rfl⟩
    rfl
  · intro D us hD
    obtain ⟨k, rfl⟩ : ∃ k, D = k + 1 := ⟨D - 1, by simp [constLexemes] at hD; omega⟩
    obtain ⟨lead, hl, hrows⟩ :=
      rows_rowLexemes hrow k (.newline :: us) [.newline] (by simp [isTrivia])
    exact declaration_consts hl (by simpa using length_le_rowLexemes) hrows

end SchemaGo.Go
