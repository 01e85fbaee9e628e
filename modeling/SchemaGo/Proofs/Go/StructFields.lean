import Mathlib
import SchemaGo.Proofs.Go.GeneratedItems
import SchemaGo.Proofs.Go.Inversion
import SchemaGo.Proofs.Go.Scanned

/-!
The fields of a struct, and the names that are read of them. A field of a named type has its own
name; a type that is embedded is addressed by its name, without the star, the package and the type
arguments. What is read of it is the end of its text, behind the last point.
-/

namespace SchemaGo.Go

open Grammar Reader Lexeme

variable {inner : Inner} {tail : Tail} {ts us vs : List Lexeme} {source : String}

/-! ### Lines of a struct -/

/-- A type that is a field under its own name. -/
structure Embedding where
  pointer : Bool := false
  qualifier? : Option String := none
  /-- What stands between the point of a qualified name and the name. -/
  gap : List Lexeme := []
  name : String
  generic : Bool := false

inductive FieldLine
  /-- Fields of one type. -/
  | named (names : List String)
  | embedded (e : Embedding)

namespace FieldLine

/-- The names by which the language addresses the fields. -/
def names : FieldLine → List String
  | named ns => ns
  | embedded e => [e.name]

/-- If the line embeds a type, the type is not generic, and its name stands right behind the
point. -/
def Plain : FieldLine → Prop
  | named _ => True
  | embedded e => e.gap = [] ∧ e.generic = false

end FieldLine

/-! ### The syntax of structs -/

section

variable (inner)

/-- In front of `us` the lexemes are the type of a field. The brackets of an array are read together
with the name in front of them. -/
inductive IsFieldType : List Lexeme → List Lexeme → Prop
  | plain {its us : List Lexeme} {tail : Tail} :
      type inner tail (its ++ us) = some ((), us) → IsFieldType its us
  | array {bs its us : List Lexeme} {tail : Tail} {b : Brackets} :
      brackets inner (bs ++ (its ++ us)) = some (b, its ++ us) → b ≠ .arguments →
        type inner tail (its ++ us) = some ((), us) → IsFieldType (bs ++ its) us

/-- In front of `us` the lexemes are the arguments of a generic type, or there are none. -/
inductive IsArguments : Bool → List Lexeme → List Lexeme → Prop
  | none {us : List Lexeme} : IsArguments false [] us
  | behindBracket {gap its us : List Lexeme} : Blank gap →
      typeArguments inner (its ++ us) = some ((), us) →
        IsArguments true (gap ++ .mark '[' :: its) us
  | brackets {its us : List Lexeme} {b : Brackets} :
      brackets inner (its ++ us) = some (b, us) → b ≠ .length → IsArguments true its us

/-- Nothing, or the name of a package with the point behind it. -/
inductive IsQualifier (e : Embedding) : List Lexeme → Prop
  | none : e.qualifier? = none → e.gap = [] → IsQualifier e []
  | some {q : String} {gap : List Lexeme} : e.qualifier? = some q → Blank gap →
      IsQualifier e (.word q :: (gap ++ [.mark '.']))

/-- The lexemes are a line of a struct, up to its tag. -/
inductive IsField : FieldLine → List Lexeme → List Lexeme → Prop
  | named {names : List String} {ns its us : List Lexeme} :
      names ≠ [] → counting ns = (names.map Lexeme.word).intersperse (.mark ',') →
        IsFieldType inner its us → IsField (.named names) (ns ++ its) us
  | embedded {e : Embedding} {star qualifier args us : List Lexeme} :
      counting star = (if e.pointer then [.mark '*'] else []) → IsQualifier e qualifier →
        Blank e.gap → IsArguments inner e.generic args us →
          IsField (.embedded e) (star ++ (qualifier ++ (e.gap ++ .word e.name :: args))) us

/-- There is one string literal, or none. -/
inductive IsTag : List Lexeme → Prop
  | none : IsTag []
  | literal {gap : List Lexeme} (s : String) : Blank gap → IsTag (gap ++ [.string s])

inductive IsLine (l : FieldLine) : List Lexeme → List Lexeme → Prop
  | mk {its tag us : List Lexeme} :
      IsField inner l its (tag ++ us) → IsTag tag → IsLine l (its ++ tag) us

/-- The lines of a struct. Behind the last one the line need not end. -/
inductive IsBody : List FieldLine → List Lexeme → List Lexeme → Prop
  | nil {us : List Lexeme} : IsBody [] [] us
  | last {l : FieldLine} {its us : List Lexeme} : IsLine inner l its us → IsBody [l] its us
  | cons {l : FieldLine} {ls : List FieldLine} {its gap rest us : List Lexeme} {t : Lexeme} :
      IsLine inner l its (gap ++ t :: (rest ++ us)) → EndsLine gap t → IsBody ls rest us →
        IsBody (l :: ls) (its ++ (gap ++ t :: rest)) us

/-- The lexemes are the name of a struct type and its body. -/
inductive IsStructSpec (name : String) (ls : List FieldLine) : List Lexeme → List Lexeme → Prop
  | mk {head rows gap us : List Lexeme} :
      counting head = [.word name, .word "struct", .mark '\x7b'] →
        IsBody inner ls rows (gap ++ .mark '\x7d' :: us) → Blank gap →
          IsStructSpec name ls (head ++ (rows ++ (gap ++ [.mark '\x7d']))) us

/-- The lexemes declare a struct type and nothing else. The declaration may stand in parentheses. -/
inductive IsStruct (name : String) (ls : List FieldLine) : List Lexeme → List Lexeme → Prop
  | single {head its us : List Lexeme} : counting head = [.word "type"] →
      IsStructSpec inner name ls its us → IsStruct name ls (head ++ its) us
  | group {head its gap foot us : List Lexeme} {t : Lexeme} :
      counting head = [.word "type", .mark '('] →
        IsStructSpec inner name ls its (gap ++ t :: (foot ++ .mark ')' :: us)) →
          EndsLine gap t → Blank foot →
            IsStruct name ls (head ++ (its ++ (gap ++ t :: (foot ++ [.mark ')'])))) us

end

/-! ### Reading the syntax -/

lemma brackets_inv [∀ g, Consumes (inner g)] {b : Brackets}
    (h : brackets inner ts = some (b, us)) : ∃ its, ts = its ++ .mark ']' :: us := by
  obtain ⟨_, vs, hopen, h₁⟩ := bind_inv h
  obtain ⟨p, ws, hc, h₂⟩ := bind_inv h₁
  obtain rfl : us = ws := by
    obtain ⟨items, comma⟩ := p
    dsimp only at h₂
    split at h₂
    · obtain ⟨_, xs, hcheck, h₃⟩ := bind_inv h₂
      rw [(pure_inv h₃).2, (check_inv hcheck).2]
    · split at h₂
      · exact (pure_inv h₂).2
      · obtain ⟨_, xs, hcheck, h₃⟩ := bind_inv h₂
        rw [(pure_inv h₃).2, (check_inv hcheck).2]
    · obtain ⟨_, xs, hcheck, h₃⟩ := bind_inv h₂
      rw [(pure_inv h₃).2, (check_inv hcheck).2]
  obtain ⟨its, rfl⟩ := commaList_inv (c := ']') hc
  obtain ⟨lead, -, rfl⟩ := mark_inv (c := '[') hopen
  exact ⟨lead ++ .mark '[' :: its, by simp⟩

/-! ### Behind the last point -/

def behindPoint (cs : List Char) : List Char := (cs.reverse.takeWhile (· != '.')).reverse

lemma behindPoint_append {cs ds : List Char} (h : '.' ∉ ds) :
    behindPoint (cs ++ ds) = behindPoint cs ++ ds := by
  have hd : ∀ c ∈ ds.reverse, (c != '.') = true := fun c hc => by
    rw [bne_iff_ne]
    rintro rfl
    exact h (List.mem_reverse.mp hc)
  rw [behindPoint, List.reverse_append, List.takeWhile_append_of_pos hd, List.reverse_append,
    List.reverse_reverse, behindPoint]

lemma behindPoint_point (cs ds : List Char) : behindPoint (cs ++ '.' :: ds) = behindPoint ds := by
  rw [behindPoint, behindPoint, List.reverse_append, List.reverse_cons, List.append_assoc,
    List.singleton_append]
  rw [List.takeWhile_append]
  split
  · next h =>
    rw [(List.takeWhile_prefix _).eq_of_length h, List.takeWhile_cons_of_neg (by simp),
      List.append_nil]
  · rfl

lemma behindPoint_ne_nil {cs : List Char} (h : ∃ c ∈ cs.getLast?, c ≠ '.') :
    behindPoint cs ≠ [] := by
  obtain ⟨c, hc, hp⟩ := h
  obtain ⟨ds, rfl⟩ := List.getLast?_eq_some_iff.mp hc
  rw [behindPoint_append (by simpa using hp.symm)]
  simp

lemma embeddedName_eq {s : String} (h : s.toList.head? ≠ some '*') :
    embeddedName s = String.ofList (behindPoint s.toList) := by
  have hdrop : s.toList.dropWhile (· == '*') = s.toList := by
    rcases hs : s.toList with _ | ⟨c, cs⟩
    · rfl
    · exact List.dropWhile_cons_of_neg (by simpa [hs] using h)
  rw [embeddedName, hdrop, behindPoint]

/-! ### What is read of an embedded type -/

lemma IsArguments.bracket [∀ g, Consumes (inner g)] {args : List Lexeme}
    (h : IsArguments inner true args us) : ∃ its, args = its ++ [.mark ']'] := by
  have hend : ∀ {its lead : List Lexeme}, its ++ us = lead ++ .mark ']' :: us →
      its = lead ++ [.mark ']'] := fun h => (List.append_left_inj us).mp (by simpa using h)
  cases h with
  | @behindBracket gap its _ hg h =>
    obtain ⟨p, vs, hc, h₁⟩ := bind_inv h
    obtain ⟨-, rfl⟩ := check_inv h₁
    obtain ⟨lead, hl⟩ := commaList_inv (c := ']') hc
    exact ⟨gap ++ .mark '[' :: lead, by simp [hend hl]⟩
  | brackets h hb =>
    obtain ⟨lead, hl⟩ := brackets_inv h
    exact ⟨lead, hend hl⟩

lemma isWord_of_suffix_scan {w : String} (h : .word w :: us <:+ scan source) :
    isWord w = true :=
  legible_of_suffix_scan h

lemma not_mem_of_isWord {w : String} {c : Char} (h : isWord w = true)
    (hs : Unicode.isIdentStart c = false) (hp : Unicode.isIdentPart c = false) :
    c ∉ w.toList := by
  obtain ⟨d, ds, hd, hstart, hpart⟩ := isWord_eq_true h
  rw [hd]
  intro hc
  rcases List.mem_cons.mp hc with rfl | hc
  · exact absurd hstart (by simp [hs])
  · exact absurd (hpart c hc) (by simp [hp])

/-- Of an embedded type its name is read, unless it is generic or has its name apart from the
point. -/
lemma embeddedName_eq_name_iff [∀ g, Consumes (inner g)] {e : Embedding}
    {args qualifier : List Lexeme}
    (hq : IsQualifier e qualifier) (hg : Blank e.gap) (ha : IsArguments inner e.generic args us)
    (hsource : qualifier ++ (e.gap ++ .word e.name :: (args ++ us)) <:+ scan source) :
    embeddedName (spell (qualifier ++ (e.gap ++ .word e.name :: args))) = e.name ↔
      FieldLine.Plain (.embedded e) := by
  have hs := (List.suffix_append _ _).trans hsource
  have hw : isWord e.name = true := isWord_of_suffix_scan ((List.suffix_append _ _).trans hs)
  have hpoint : '.' ∉ e.name.toList :=
    not_mem_of_isWord hw (by decide +kernel) (by decide +kernel)
  have hhead : (spell (qualifier ++ (e.gap ++ .word e.name :: args))).toList.head? ≠ some '*' := by
    have hstar : ∀ {w : String} (cs : List Char), isWord w = true →
        (w.toList ++ cs).head? ≠ some '*' := by
      intro w cs hw
      obtain ⟨c, rest, hc, -, -⟩ := isWord_eq_true hw
      rw [hc, List.cons_append, List.head?_cons]
      rintro ⟨rfl⟩
      exact not_mem_of_isWord hw (c := '*') (by decide +kernel) (by decide +kernel) (by simp [hc])
    rw [toList_spell_eq_chars]
    cases hq with
    | none _ hgap =>
      rw [hgap]
      exact hstar _ hw
    | some _ _ => exact hstar _ (isWord_of_suffix_scan hsource)
  have hchars : ∃ front, chars (qualifier ++ (e.gap ++ .word e.name :: args)) =
      front ++ (chars e.gap ++ (e.name.toList ++ chars args)) ∧
        behindPoint (front ++ (chars e.gap ++ e.name.toList)) =
          behindPoint (chars e.gap) ++ e.name.toList := by
    cases hq with
    | none _ hgap =>
      exact ⟨[], by simp [Lexeme.text], by simpa [hgap] using @behindPoint_append [] _ hpoint⟩
    | @some q lead _ _ =>
      refine ⟨q.toList ++ chars lead ++ ['.'], by simp [Lexeme.text], ?_⟩
      rw [List.append_assoc, List.singleton_append, behindPoint_point, behindPoint_append hpoint]
  obtain ⟨front, hchars, hbehind⟩ := hchars
  rw [embeddedName_eq hhead, toList_spell_eq_chars, hchars, ← String.toList_inj,
    String.toList_ofList, FieldLine.Plain]
  cases hgen : e.generic with
  | true =>
    rw [hgen] at ha
    obtain ⟨its, rfl⟩ := ha.bracket
    have hend : chars (its ++ [.mark ']']) = chars its ++ [']'] := by simp [Lexeme.text]
    have hb : ']' ∉ e.name.toList := not_mem_of_isWord hw (by decide +kernel) (by decide +kernel)
    simp only [reduceCtorEq, and_false, iff_false]
    rw [hend, ← List.append_assoc, ← List.append_assoc, ← List.append_assoc,
      behindPoint_append (by simp)]
    intro h
    exact hb (by rw [← h]; simp)
  | false =>
    rw [hgen] at ha
    cases ha
    rw [chars_nil, List.append_nil, hbehind, and_iff_left rfl, List.append_left_eq_self]
    constructor
    · intro hnil
      by_contra hne
      exact behindPoint_ne_nil (getLast?_chars_of_suffix_scan hg hne hs) hnil
    · intro hgap
      rw [hgap]
      rfl

/-! ### Reading a line -/

section

variable [∀ g, Consumes (inner g)] {names : List String}

lemma typeNameRest_inv {u : Unit} (h : typeNameRest inner tail ts = some (u, us)) :
    ∃ generic args, IsArguments inner generic args us ∧
      (ts = args ++ us ∨ ∃ lead gap n, Blank lead ∧ Blank gap ∧
        ts = lead ++ .mark '.' :: (gap ++ .word n :: (args ++ us))) := by
  have hargs : ∀ {vs : List Lexeme} {u : Unit}, (do
      if ← takes tail "[" then typeArguments inner : Reader Unit) vs = some (u, us) →
        ∃ generic args, IsArguments inner generic args us ∧ vs = args ++ us := by
    intro vs u h
    obtain ⟨b, ws, hb, h₁⟩ := bind_inv h
    have hws := takes_inv (c := '[') hb
    split at h₁
    · next hbt =>
      rw [if_pos hbt] at hws
      obtain ⟨gap, hgap, rfl⟩ := hws
      obtain ⟨its, rfl⟩ := Consumes.suffix h₁
      exact ⟨true, gap ++ .mark '[' :: its, .behindBracket hgap h₁, by simp⟩
    · next hbf =>
      rw [if_neg hbf] at hws
      obtain ⟨-, rfl⟩ := pure_inv h₁
      exact ⟨false, [], .none, hws.symm⟩
  obtain ⟨b, vs, hb, h₁⟩ := bind_inv h
  obtain ⟨c, ws, hc, h₂⟩ := bind_inv h₁
  obtain rfl := sees_inv hb
  obtain rfl := sees_inv hc
  dsimp only at h₂
  split at h₂
  · obtain ⟨_, xs, hmark, h₃⟩ := bind_inv h₂
    obtain ⟨_, ys, hword, h₄⟩ := bind_inv h₃
    obtain ⟨n, hn⟩ := discard_inv hword
    obtain ⟨lead, hl, rfl⟩ := mark_inv (c := '.') hmark
    obtain ⟨gap, hg, rfl⟩ := word_inv hn
    obtain ⟨generic, args, ha, rfl⟩ := hargs h₄
    exact ⟨generic, args, ha, .inr ⟨lead, gap, n, hl, hg, rfl⟩⟩
  · obtain ⟨generic, args, ha, rfl⟩ := hargs h₂
    exact ⟨generic, args, ha, .inl rfl⟩

lemma embedded_inv {r : Reader Unit} [Consumes r] (h : field.embedded r ts = some (names, us)) :
    ∃ lead its, Blank lead ∧ ts = lead ++ (its ++ us) ∧ r (its ++ us) = some ((), us) ∧
      (∀ t ∈ its.head?, isTrivia t = false) ∧ names = [embeddedName (spell its)] := by
  obtain ⟨⟨_, text⟩, vs, hs, h₁⟩ := bind_inv h
  obtain ⟨rfl, rfl⟩ := pure_inv h₁
  obtain ⟨lead, its, hl, rfl, hr, rfl, hhead⟩ := spelled_inv hs
  exact ⟨lead, its, hl, rfl, hr, hhead, rfl⟩

/-- The first lexeme that counts is the first lexeme. -/
lemma word_inv_of_head {its : List Lexeme} {w : String}
    (hhead : ∀ t ∈ its.head?, isTrivia t = false) (hu : us <:+ vs)
    (h : word (its ++ us) = some (w, vs)) : ∃ rest, its = .word w :: rest ∧ vs = rest ++ us := by
  obtain ⟨lead, hl, hits⟩ := word_inv h
  obtain ⟨rest, rfl⟩ := hu
  obtain rfl : its = lead ++ .word w :: rest := (List.append_left_inj us).mp (by simpa using hits)
  cases lead with
  | nil => exact ⟨rest, rfl, rfl⟩
  | cons t lead => simp [hhead t (by simp)] at hl

lemma seesType_inv {b : Bool} (h : seesType tail ts = some (b, us)) : us = ts := by
  obtain ⟨o, vs, ho, h₁⟩ := bind_inv h
  obtain rfl := peek_inv ho
  split at h₁
  case h_6 => exact sees_inv h₁
  all_goals exact (pure_inv h₁).2

lemma nameOrGeneric_inv {b : Bool} (h : nameOrGeneric inner tail ts = some (b, us)) :
    if b then ∃ its, ts = its ++ us ∧ IsFieldType inner its us
    else ∃ k, brackets inner ts = some (k, us) ∧ k ≠ .length := by
  have harray : ∀ {k : Brackets} {vs : List Lexeme} {u : Unit}, brackets inner ts = some (k, vs) →
      k ≠ .arguments → type inner tail vs = some (u, us) →
        ∃ its, ts = its ++ us ∧ IsFieldType inner its us := by
    intro k vs u hb hk ht
    obtain ⟨bs, hbs⟩ := Consumes.suffix hb
    obtain ⟨its, rfl⟩ := Consumes.suffix ht
    subst hbs
    exact ⟨bs ++ its, by simp, .array hb hk ht⟩
  obtain ⟨k, vs, hk, h₁⟩ := bind_inv h
  split at h₁
  · next he =>
    obtain ⟨_, ws, ht, h₂⟩ := bind_inv h₁
    obtain ⟨rfl, rfl⟩ := pure_inv h₂
    exact harray hk (by simp [he]) ht
  · obtain ⟨c, ws, hc, h₂⟩ := bind_inv h₁
    obtain rfl := seesType_inv hc
    split at h₂
    · obtain ⟨_, xs, hcheck, h₃⟩ := bind_inv h₂
      obtain ⟨_, ys, ht, h₄⟩ := bind_inv h₃
      obtain ⟨rfl, rfl⟩ := pure_inv h₄
      obtain ⟨hne, rfl⟩ := check_inv hcheck
      exact harray hk (by simpa using hne) ht
    · obtain ⟨_, xs, hcheck, h₃⟩ := bind_inv h₂
      obtain ⟨rfl, rfl⟩ := pure_inv h₃
      obtain ⟨hne, rfl⟩ := check_inv hcheck
      exact ⟨k, hk, by simpa using hne⟩

/-- There are as many names as the line has, and they are those if and only if the line is plain. -/
def Records (l : FieldLine) (names : List String) : Prop :=
  names.length = l.names.length ∧ (names = l.names ↔ l.Plain)

lemma records_named (ns : List String) : Records (.named ns) ns := by
  simp [Records, FieldLine.names, FieldLine.Plain]

/-- In front of `us` the reader finds the name of a type, behind what is passed over of `ts`. -/
def ReadsTypeName (inner : Inner) (r : Reader Unit) (ts us : List Lexeme) : Prop :=
  ∀ lead its, Blank lead → ts = lead ++ (its ++ us) → (∀ t ∈ its.head?, isTrivia t = false) →
    r (its ++ us) = some ((), us) → ∃ qualifier args, ∃ e : Embedding,
      IsQualifier e qualifier ∧ Blank e.gap ∧ IsArguments inner e.generic args us ∧
        its = qualifier ++ (e.gap ++ .word e.name :: args)

lemma records_embedded {r : Reader Unit} [Consumes r] (star : List Lexeme) (pointer : Bool)
    (hr : ReadsTypeName inner r ts us)
    (hstar : counting star = if pointer then [.mark '*'] else [])
    (hs : ts <:+ scan source) (h : field.embedded r ts = some (names, us)) :
    ∃ its l, ts = its ++ us ∧ IsField inner l (star ++ its) us ∧ Records l names := by
  obtain ⟨lead, its, hl, hts, hrun, hhead, rfl⟩ := embedded_inv h
  obtain ⟨qualifier, args, e, hq, hg, ha, rfl⟩ := hr lead its hl hts hhead hrun
  have hq' : IsQualifier { e with pointer } qualifier := by
    cases hq with
    | none h₁ h₂ => exact .none h₁ h₂
    | some h₁ h₂ => exact .some h₁ h₂
  have hsource : qualifier ++ (e.gap ++ .word e.name :: (args ++ us)) <:+ scan source :=
    .trans ⟨lead, by simp [hts]⟩ hs
  have hname := embeddedName_eq_name_iff hq hg ha hsource
  refine ⟨lead ++ (qualifier ++ (e.gap ++ .word e.name :: args)), .embedded { e with pointer },
    by simp [hts], ?_, by simp [FieldLine.names],
    by simpa [FieldLine.names, FieldLine.Plain] using hname⟩
  rw [← List.append_assoc]
  exact .embedded (by simp [hstar, counting_eq_nil.mpr hl]) hq' hg ha

lemma readsTypeName_rest :
    ReadsTypeName inner (do discard word; typeNameRest inner tail) ts us := by
  intro lead its _ _ hhead h
  obtain ⟨_, vs, hword, h₁⟩ := bind_inv h
  obtain ⟨w, hw⟩ := discard_inv hword
  obtain ⟨rest, rfl, rfl⟩ := word_inv_of_head hhead (Consumes.suffix h₁) hw
  obtain ⟨generic, args, ha, hrest | ⟨gap, gap', n, hg, hg', hrest⟩⟩ := typeNameRest_inv h₁
  · obtain rfl := List.append_cancel_right hrest
    exact ⟨[], rest, { name := w, generic }, .none rfl rfl, blank_nil, ha, rfl⟩
  · obtain rfl : rest = gap ++ .mark '.' :: (gap' ++ .word n :: args) :=
      (List.append_left_inj us).mp (by simpa using hrest)
    exact ⟨.word w :: (gap ++ [.mark '.']), args,
      { qualifier? := w, gap := gap', name := n, generic }, .some rfl hg, hg', ha, by simp⟩

lemma readsTypeName_brackets {name : String} {rest : List Lexeme} {k : Brackets}
    (hname : word ts = some (name, rest)) (hk : brackets inner rest = some (k, vs))
    (hne : k ≠ .length) :
    ReadsTypeName inner (do discard word; discard (brackets inner)) ts us := by
  intro lead its hl hts hhead h
  obtain ⟨_, xs, hword, h₁⟩ := bind_inv h
  obtain ⟨w, hw⟩ := discard_inv hword
  obtain ⟨k', hk'⟩ := discard_inv h₁
  -- the brackets are those that have been read before
  obtain ⟨rfl, rfl⟩ : w = name ∧ xs = rest := by
    have hsame : word ts = word (its ++ us) := by rw [hts, Reader.word, next_trivia hl, Reader.word]
    rw [hsame, hw] at hname
    cases hname
    exact ⟨rfl, rfl⟩
  obtain ⟨rfl, rfl⟩ : k' = k ∧ us = vs := by
    rw [hk] at hk'
    cases hk'
    exact ⟨rfl, rfl⟩
  obtain ⟨args, rfl, rfl⟩ := word_inv_of_head hhead (Consumes.suffix hk) hw
  exact ⟨[], args, { name := w, generic := true }, .none rfl rfl, blank_nil, .brackets hk hne, rfl⟩

/-- What follows the first word of a field. -/
lemma namedField_inv {lead rest : List Lexeme} {name : String} (hl : Blank lead)
    (hs : lead ++ .word name :: rest <:+ scan source)
    (h : (do
      if ← takes .line "," then
        let names ← sepList .closed "," word
        type inner .line
        return name :: names
      else if ← sees .line "[" then
        if ← nameOrGeneric inner .line then return [name]
        else
          set (lead ++ .word name :: rest)
          field.embedded (do discard word; discard (brackets inner))
      else if ← sees .line "." then
        set (lead ++ .word name :: rest)
        field.embedded (do discard word; typeNameRest inner .line)
      else if ← seesType .line then
        type inner .line
        return [name]
      else return [name] : Reader (List String)) rest = some (names, us)) :
    ∃ its l, lead ++ .word name :: rest = its ++ us ∧ IsField inner l its us ∧
      Records l names := by
  have hone : ∀ {its : List Lexeme}, IsFieldType inner its us → rest = its ++ us →
      ∃ its l, lead ++ .word name :: rest = its ++ us ∧ IsField inner l its us ∧
        Records l [name] := by
    rintro its ht rfl
    exact ⟨lead ++ [.word name] ++ its, .named [name], by simp,
      .named (by simp) (by simp [counting_eq_nil.mpr hl]) ht, records_named _⟩
  obtain ⟨comma, vs, hcomma, h₁⟩ := bind_inv h
  have hvs := takes_inv (c := ',') hcomma
  split at h₁
  · next hb =>
    rw [if_pos hb] at hvs
    obtain ⟨gap, hg, rfl⟩ := hvs
    obtain ⟨names, ws, hnames, h₂⟩ := bind_inv h₁
    obtain ⟨_, xs, htype, h₃⟩ := bind_inv h₂
    obtain ⟨rfl, rfl⟩ := pure_inv h₃
    obtain ⟨ns, rfl, hne, hcount⟩ := names_inv hnames
    obtain ⟨its, rfl⟩ := Consumes.suffix htype
    refine ⟨lead ++ .word name :: (gap ++ .mark ',' :: ns) ++ its, .named (name :: names),
      by simp, .named (by simp) ?_ (.plain htype), records_named _⟩
    obtain ⟨n, ns', rfl⟩ := List.exists_cons_of_ne_nil hne
    simp [counting_eq_nil.mpr hl, counting_eq_nil.mpr hg, hcount]
  next hb =>
  rw [if_neg hb] at hvs
  subst hvs
  obtain ⟨bracket, ws, hbracket, h₂⟩ := bind_inv h₁
  obtain rfl := sees_inv hbracket
  split at h₂
  · -- the brackets of an array, or those of a generic type
    obtain ⟨isName, xs, hgeneric, h₃⟩ := bind_inv h₂
    have hinv := nameOrGeneric_inv hgeneric
    split at h₃
    · next hn =>
      obtain ⟨rfl, rfl⟩ := pure_inv h₃
      rw [if_pos hn] at hinv
      obtain ⟨its, hits, ht⟩ := hinv
      exact hone ht hits
    · next hn =>
      rw [if_neg hn] at hinv
      obtain ⟨k, hk, hne⟩ := hinv
      have hname := word_trivia hl name ws
      exact records_embedded [] false
        (readsTypeName_brackets hname hk hne) rfl hs h₃
  obtain ⟨point, xs, hpoint, h₃⟩ := bind_inv h₂
  obtain rfl := sees_inv hpoint
  split at h₃
  · exact records_embedded [] false readsTypeName_rest rfl hs h₃
  obtain ⟨typed, ys, htyped, h₄⟩ := bind_inv h₃
  obtain rfl := seesType_inv htyped
  split at h₄
  · obtain ⟨_, zs, htype, h₅⟩ := bind_inv h₄
    obtain ⟨rfl, rfl⟩ := pure_inv h₅
    obtain ⟨its, rfl⟩ := Consumes.suffix htype
    exact hone (.plain htype) rfl
  · obtain ⟨rfl, rfl⟩ := pure_inv h₄
    refine ⟨lead ++ ([] ++ ([] ++ .word name :: [])), .embedded { name }, by simp,
      .embedded (counting_eq_nil.mpr hl) (.none rfl rfl) blank_nil .none, ?_⟩
    simp [Records, FieldLine.names, FieldLine.Plain]

lemma fieldNames_inv (hs : ts <:+ scan source) (h : fieldNames inner ts = some (names, us)) :
    ∃ its l, ts = its ++ us ∧ IsField inner l its us ∧ Records l names := by
  obtain ⟨star, vs, hstar, h₁⟩ := bind_inv h
  have hvs := takes_inv (c := '*') hstar
  split at h₁
  · next hb =>
    rw [if_pos hb] at hvs
    obtain ⟨lead, hl, rfl⟩ := hvs
    have hmark : counting (lead ++ [.mark '*']) = [.mark '*'] := by simp [counting_eq_nil.mpr hl]
    obtain ⟨its, l, rfl, hf, hrec⟩ := records_embedded _ true readsTypeName_rest hmark
      (.trans ⟨lead ++ [.mark '*'], by simp⟩ hs) h₁
    exact ⟨_, l, by simp, hf, hrec⟩
  · next hb =>
    rw [if_neg hb] at hvs
    rw [hvs, bind_eq (get_eq ts)] at h₁
    obtain ⟨name, rest, hname, h₂⟩ := bind_inv h₁
    obtain ⟨lead, hl, rfl⟩ := word_inv hname
    exact namedField_inv hl hs h₂

omit [∀ g, Consumes (inner g)] in
lemma fieldTag_inv {u : Unit} (h : fieldTag ts = some (u, us)) :
    ∃ tag, ts = tag ++ us ∧ IsTag tag := by
  obtain ⟨o, vs, ho, h₁⟩ := bind_inv h
  have hpeek : o = (next .line ts).map (·.1) ∧ vs = ts := by
    cases ho
    exact ⟨rfl, rfl⟩
  obtain ⟨hpeek, rfl⟩ := hpeek
  split at h₁
  · next s =>
    obtain ⟨⟨t, ws⟩, hn, ht⟩ := Option.map_eq_some_iff.mp hpeek.symm
    obtain ⟨t', ht'⟩ := discard_inv h₁
    have hadvance : advance vs = some (t, ws) := next_closed_eq hn
    rw [hadvance] at ht'
    cases ht'
    cases ht
    obtain ⟨-, gap, hg, rfl⟩ := advance_inv hadvance
    exact ⟨gap ++ [.string s], by simp, .literal s hg⟩
  · obtain ⟨-, rfl⟩ := pure_inv h₁
    exact ⟨[], rfl, .none⟩

lemma field_inv (hs : ts <:+ scan source) (h : field inner ts = some (names, us)) :
    ∃ its l, ts = its ++ us ∧ IsLine inner l its us ∧ Records l names := by
  rw [field_eq] at h
  obtain ⟨names, vs, hnames, h₁⟩ := bind_inv h
  obtain ⟨_, ws, htag, h₂⟩ := bind_inv h₁
  obtain ⟨rfl, rfl⟩ := pure_inv h₂
  obtain ⟨its, l, rfl, hf, hrec⟩ := fieldNames_inv hs hnames
  obtain ⟨tag, rfl, ht⟩ := fieldTag_inv htag
  exact ⟨its ++ tag, l, by simp, .mk hf ht, hrec⟩

/-! ### Reading a struct -/

/-- The names are read line by line. -/
def RecordsAll (ls : List FieldLine) (names : List String) : Prop :=
  ∃ nss, names = nss.flatten ∧ List.Forall₂ Records ls nss

omit [∀ g, Consumes (inner g)] in
lemma RecordsAll.eq_iff {ls : List FieldLine} (h : RecordsAll ls names) :
    names = ls.flatMap FieldLine.names ↔ ∀ l ∈ ls, l.Plain := by
  obtain ⟨nss, rfl, h⟩ := h
  induction h with
  | nil => simp
  | @cons l ns ls nss hl _ ih =>
    rw [List.flatten_cons, List.flatMap_cons, List.forall_mem_cons, ← hl.2, ← ih]
    constructor
    · exact fun h => List.append_inj h hl.1
    · rintro ⟨h₁, h₂⟩
      rw [h₁, h₂]

omit [∀ g, Consumes (inner g)] in
lemma RecordsAll.mem {ls : List FieldLine} (h : RecordsAll ls names) {l : FieldLine} (hl : l ∈ ls)
    (hp : l.Plain) : ∀ n ∈ l.names, n ∈ names := by
  obtain ⟨nss, rfl, h⟩ := h
  induction h with
  | nil => simp at hl
  | @cons k ns ls nss hk _ ih =>
    intro n hn
    rw [List.flatten_cons, List.mem_append]
    rcases List.mem_cons.mp hl with rfl | hl
    · exact .inl (hk.2.mpr hp ▸ hn)
    · exact .inr (ih hl n hn)

lemma cells_inv {cs : List (List String × Bool)} (h : Cells (field inner) ts cs us)
    (hs : ts <:+ scan source) (hall : cs.dropLast.all (·.2) = true) :
    ∃ its ls, ts = its ++ us ∧ IsBody inner ls its us ∧
      List.Forall₂ Records ls (cs.map (·.1)) := by
  induction h with
  | nil => exact ⟨[], [], rfl, .nil, .nil⟩
  | @cons ts vs ws us names b cs hf ht hcs ih =>
    obtain ⟨its, l, rfl, hl, hrec⟩ := field_inv hs hf
    have hend := terminator?_inv ht
    cases b with
    | true =>
      obtain ⟨gap, t, hend, rfl⟩ := hend
      have hall' : cs.dropLast.all (·.2) = true := by
        cases cs with
        | nil => rfl
        | cons c cs => simpa using hall
      obtain ⟨rest, ls, rfl, hbody, hrecs⟩ := ih (.trans ⟨its ++ (gap ++ [t]), by simp⟩ hs) hall'
      exact ⟨its ++ (gap ++ t :: rest), l :: ls, by simp, .cons hl hend hbody, .cons hrec hrecs⟩
    | false =>
      -- only the last line goes without an end
      obtain rfl : ws = vs := hend
      cases cs with
      | cons c cs => simp at hall
      | nil =>
        cases hcs
        exact ⟨its, [l], rfl, .last hl, .cons hrec .nil⟩

lemma fields_inv (hs : ts <:+ scan source) (h : fields inner ts = some (names, us)) :
    ∃ head rows gap ls, ts = head ++ (rows ++ (gap ++ .mark '\x7d' :: us)) ∧
      counting head = [.mark '\x7b'] ∧ IsBody inner ls rows (gap ++ .mark '\x7d' :: us) ∧
        Blank gap ∧ RecordsAll ls names := by
  obtain ⟨_, vs, hopen, h₁⟩ := bind_inv h
  obtain ⟨nss, ws, hlines, h₂⟩ := bind_inv h₁
  obtain ⟨rfl, rfl⟩ := pure_inv h₂
  obtain ⟨lead, hl, rfl⟩ := mark_inv (c := '\x7b') hopen
  obtain ⟨cs, xs, hcs, hclose, hall, rfl⟩ := lines_inv hlines
  obtain ⟨gap, hg, rfl⟩ := mark_inv (c := '\x7d') hclose
  obtain ⟨rows, ls, rfl, hbody, hrecs⟩ :=
    cells_inv hcs (.trans ⟨lead ++ [.mark '\x7b'], by simp⟩ hs) hall
  exact ⟨lead ++ [.mark '\x7b'], rows, gap, ls, by simp, by simp [counting_eq_nil.mpr hl], hbody,
    hg, _, rfl, hrecs⟩

lemma typeSpec_inv {name : String} (hs : ts <:+ scan source)
    (h : typeSpec inner tail ts = some (.struct name names, us)) :
    ∃ its ls, ts = its ++ us ∧ IsStructSpec inner name ls its us ∧ RecordsAll ls names := by
  obtain ⟨n, vs, hname, h₁⟩ := bind_inv h
  obtain ⟨lead, hl, rfl⟩ := word_inv hname
  obtain ⟨_, ws, halias, h₂⟩ := bind_inv h₁
  have hws := takes_inv (c := '=') halias
  split at h₂
  · obtain ⟨_, xs, -, h₃⟩ := bind_inv h₂
    cases (pure_inv h₃).1
  next hb =>
  rw [if_neg hb] at hws
  subst hws
  obtain ⟨bracket, xs, hbracket, h₃⟩ := bind_inv h₂
  obtain rfl := sees_inv hbracket
  obtain ⟨array, ys, harray, h₄⟩ := bind_inv h₃
  obtain rfl : ys = xs := by
    cases harray
    rfl
  split at h₄
  · obtain ⟨_, zs, -, h₅⟩ := bind_inv h₄
    obtain ⟨_, as, -, h₆⟩ := bind_inv h₅
    obtain ⟨_, bs, -, h₇⟩ := bind_inv h₆
    cases (pure_inv h₇).1
  obtain ⟨struct, zs, hstruct, h₅⟩ := bind_inv h₄
  have hzs := takesWord_inv hstruct
  split at h₅
  · next hb =>
    rw [if_pos hb] at hzs
    obtain ⟨gap, hg, rfl⟩ := hzs
    obtain ⟨fs, as, hfs, h₆⟩ := bind_inv h₅
    obtain ⟨he, rfl⟩ := pure_inv h₆
    cases he
    obtain ⟨head, rows, gap', ls, rfl, hhead, hbody, hg', hrec⟩ :=
      fields_inv (.trans ⟨lead ++ .word name :: (gap ++ [.word "struct"]), by simp⟩ hs) hfs
    refine ⟨(lead ++ .word name :: (gap ++ .word "struct" :: head)) ++
      (rows ++ (gap' ++ [.mark '\x7d'])), ls, by simp, .mk ?_ hbody hg', hrec⟩
    simp [counting_eq_nil.mpr hl, counting_eq_nil.mpr hg, hhead]
  · obtain ⟨⟨_, text⟩, as, -, h₆⟩ := bind_inv h₅
    cases (pure_inv h₆).1

/-- The only declaration of a group ends its line. -/
lemma specs_inv {α : Type} {spec : Tail → Reader α} {a : α}
    (h : specs tail spec ts = some ([a], us)) :
    spec tail ts = some (a, us) ∨ ∃ head vs gap t foot, ts = head ++ vs ∧
      counting head = [.mark '('] ∧ EndsLine gap t ∧ Blank foot ∧
        spec .line vs = some (a, gap ++ t :: (foot ++ .mark ')' :: us)) := by
  obtain ⟨group, vs, hgroup, h₁⟩ := bind_inv h
  have hvs := takes_inv (c := '(') hgroup
  split at h₁
  · next hb =>
    rw [if_pos hb] at hvs
    obtain ⟨lead, hl, rfl⟩ := hvs
    obtain ⟨xs, hcells, hclose⟩ := fullLines_inv h₁
    obtain ⟨foot, hf, rfl⟩ := mark_inv (c := ')') hclose
    cases hcells with
    | cons hspec hend hnil =>
      cases hnil
      obtain ⟨gap, t, hends, rfl⟩ := terminator?_inv hend
      exact .inr ⟨lead ++ [.mark '('], vs, gap, t, foot, by simp, by simp [counting_eq_nil.mpr hl],
        hends, hf, hspec⟩
  · next hb =>
    rw [if_neg hb] at hvs
    subst hvs
    obtain ⟨b, ws, hspec, h₂⟩ := bind_inv h₁
    obtain ⟨he, rfl⟩ := pure_inv h₂
    cases he
    exact .inl hspec

lemma declaration_inv {name : String} (hs : ts <:+ scan source)
    (h : declaration inner .line ts = some (.struct name names, us)) :
    ∃ its ls, ts = its ++ us ∧ IsStruct inner name ls its us ∧ RecordsAll ls names := by
  obtain ⟨w, vs, hw, h₁⟩ := bind_inv h
  obtain ⟨lead, hl, rfl⟩ := word_inv hw
  split at h₁
  · obtain ⟨_, ws, -, h₂⟩ := bind_inv h₁
    cases (pure_inv h₂).1
  · obtain ⟨_, ws, -, h₂⟩ := bind_inv h₁
    cases (pure_inv h₂).1
  · obtain ⟨ss, ws, hspecs, h₂⟩ := bind_inv h₁
    obtain ⟨hshape, rfl⟩ := pure_inv h₂
    obtain rfl : ss = [.struct name names] := by
      unfold typeShape at hshape
      split at hshape <;> simp_all
    have hhead : counting (lead ++ [.word "type"]) = [.word "type"] := by
      simp [counting_eq_nil.mpr hl]
    rcases specs_inv hspecs with hspec | ⟨head, xs, gap, t, foot, rfl, hh, hend, hf, hspec⟩
    · obtain ⟨its, ls, rfl, hst, hrec⟩ :=
        typeSpec_inv (.trans ⟨lead ++ [.word "type"], by simp⟩ hs) hspec
      exact ⟨lead ++ [.word "type"] ++ its, ls, by simp, .single hhead hst, hrec⟩
    · obtain ⟨its, ls, rfl, hst, hrec⟩ :=
        typeSpec_inv (.trans ⟨lead ++ .word "type" :: head, by simp⟩ hs) hspec
      refine ⟨(lead ++ [.word "type"] ++ head) ++ (its ++ (gap ++ t :: (foot ++ [.mark ')']))), ls,
        by simp, .group ?_ hst hend hf, hrec⟩
      rw [counting_append, hhead, hh]
      rfl
  · cases h₁

omit [∀ g, Consumes (inner g)] in
lemma statementShape_inv {name : String}
    (h : statementShape inner ts = some (.struct name names, us)) :
    declaration inner .line ts = some (.struct name names, us) := by
  obtain ⟨o, vs, ho, h₁⟩ := bind_inv h
  obtain rfl := peek_inv ho
  have hstatement : statementShape.statement inner vs ≠ some (.struct name names, us) := by
    intro hst
    obtain ⟨_, ws, -, h₂⟩ := bind_inv hst
    cases (pure_inv h₂).1
  split at h₁
  · split at h₁
    · exact h₁
    · exact absurd h₁ hstatement
  · exact absurd h₁ hstatement

omit [∀ g, Consumes (inner g)] in
lemma functionItem_ne_struct {name : String} :
    functionItem inner ts ≠ some (.struct name names, us) := by
  intro h
  obtain ⟨_, vs, -, h₁⟩ := bind_inv h
  obtain ⟨n, ws, -, h₂⟩ := bind_inv h₁
  obtain ⟨generic, xs, -, h₃⟩ := bind_inv h₂
  dsimp only at h₃
  split at h₃
  · obtain ⟨_, ys, -, h₄⟩ := bind_inv h₃
    obtain ⟨_, zs, -, h₅⟩ := bind_inv h₄
    cases (pure_inv h₅).1
  · obtain ⟨_, ys, -, h₄⟩ := bind_inv h₃
    cases (pure_inv h₄).1

omit [∀ g, Consumes (inner g)] in
lemma methodItem_ne_struct {name : String} :
    methodItem inner ts ≠ some (.struct name names, us) := by
  intro h
  obtain ⟨_, vs, -, h₁⟩ := bind_inv h
  obtain ⟨_, ws, -, h₂⟩ := bind_inv h₁
  obtain ⟨n, xs, -, h₃⟩ := bind_inv h₂
  obtain ⟨_, ys, -, h₄⟩ := bind_inv h₃
  obtain ⟨_, zs, -, h₅⟩ := bind_inv h₄
  obtain ⟨_, as, -, h₆⟩ := bind_inv h₅
  obtain ⟨_, bs, -, h₇⟩ := bind_inv h₆
  cases (pure_inv h₇).1

/-- **An item with the shape of a struct declares one**, with the fields that are read of it. -/
theorem item_struct {name : String} {qualifiers : List String} {last : Bool}
    (hs : ts <:+ scan source)
    (h : item inner ts = some ((.decl (.struct name names) qualifiers, last), us)) :
    ∃ its ls, ts = its ++ us ∧ IsStruct inner name ls its us ∧ RecordsAll ls names := by
  refine declaration_inv hs (statementShape_inv ?_)
  cases readBy_of_item inner h with
  | package begins read =>
    subst begins
    cases (packageItem_inv read).1
  | imports begins read =>
    subst begins
    rcases importItem_inv read with ⟨e, he, -⟩ | ⟨lead, vs, n, parts, -, -, he, -⟩ <;> cases he
  | function _ read => exact absurd read functionItem_ne_struct
  | method _ read => exact absurd read methodItem_ne_struct
  | statement read => exact read

end

end SchemaGo.Go
