import Mathlib
import SchemaGo.Json.Scan
import SchemaGo.Text.Quoted

/-!
How values are spelled in JSON. A spelling tells for each value which texts stand for it, and which
of them is written. The texts differ in the escapes of strings, in the blanks between tokens, in
the order of the members of objects, and in the members with default values that are left out. What
is written has no blanks, escapes only what must be escaped, and leaves nothing out.
-/

namespace SchemaGo.Json

variable {α β : Type}

/-! ### Blanks and commas -/

def IsBlanks (cs : List Char) : Prop := ∀ c ∈ cs, isSpace c = true

/-- The text begins with a character that neither is a blank nor ends a list. -/
def Begins (cs : List Char) : Prop := ∃ c rest, cs = c :: rest ∧ isSpace c = false ∧ c ≠ ']'

/-- What stands behind an item: the end, or a comma and the other items. -/
inductive Follows (closing : Char) : List (List Char) → List Char → Prop
  | done {ws : List Char} (blanks : IsBlanks ws) : Follows closing [] (ws ++ [closing])
  | item {ws ws' t cs : List Char} {ts : List (List Char)} (blanks : IsBlanks ws)
      (blanks' : IsBlanks ws') (others : Follows closing ts cs) :
      Follows closing (t :: ts) (ws ++ ',' :: (ws' ++ (t ++ cs)))

/-- The items between brackets, with commas between them. -/
inductive Enclosed (opening closing : Char) : List (List Char) → List Char → Prop
  | empty {ws : List Char} (blanks : IsBlanks ws) :
      Enclosed opening closing [] (opening :: (ws ++ [closing]))
  | items {ws t cs : List Char} {ts : List (List Char)} (blanks : IsBlanks ws)
      (others : Follows closing ts cs) :
      Enclosed opening closing (t :: ts) (opening :: (ws ++ (t ++ cs)))

/-- The items with nothing but commas between them. -/
def enclose (opening closing : Char) (ts : List (List Char)) : List Char :=
  opening :: ([','].intercalate ts ++ [closing])

lemma isBlanks_nil : IsBlanks [] := fun _ hc => absurd hc List.not_mem_nil

lemma enclosed_enclose (opening closing : Char) (ts : List (List Char)) :
    Enclosed opening closing ts (enclose opening closing ts) := by
  have hfollows : ∀ ts : List (List Char),
      Follows closing ts (ts.flatMap (',' :: ·) ++ [closing]) := by
    intro ts
    induction ts with
    | nil => exact .done isBlanks_nil
    | cons t ts ih => simpa using Follows.item (t := t) isBlanks_nil isBlanks_nil ih
  have hcommas : ∀ t (ts : List (List Char)),
      [','].intercalate (t :: ts) = t ++ ts.flatMap (',' :: ·) := by
    intro t ts
    induction ts generalizing t with
    | nil => simp
    | cons u ts ih => rw [List.intercalate_cons_cons, ih]; simp
  cases ts with
  | nil => exact .empty isBlanks_nil
  | cons t ts =>
    rw [enclose, hcommas, List.append_assoc]
    exact .items isBlanks_nil (hfollows ts)

lemma Enclosed.begins {opening closing : Char} {ts : List (List Char)} {cs : List Char}
    (h : Enclosed opening closing ts cs) (ho : isSpace opening = false) (hc : opening ≠ ']') :
    Begins cs := by
  cases h <;> exact ⟨_, _, rfl, ho, hc⟩

/-! ### Digits and characters -/

lemma isSpace_of_isDigit {c : Char} (h : c.isDigit = true) : isSpace c = false := by
  rw [← Bool.not_eq_true]
  simp only [isSpace, Bool.or_eq_true, beq_iff_eq]
  rintro (((rfl | rfl) | rfl) | rfl) <;> exact absurd h (by decide)

lemma isDigit_of_mem_toDigits {c : Char} {n : ℕ} (h : c ∈ Nat.toDigits 10 n) :
    c.isDigit = true :=
  Nat.isDigit_of_mem_toDigits (by decide) (by decide) h

/-- A number begins with a digit. -/
lemma exists_toDigits_eq_cons (n : ℕ) :
    ∃ c cs, Nat.toDigits 10 n = c :: cs ∧ c.isDigit = true := by
  obtain ⟨c, cs, hn⟩ := List.exists_cons_of_ne_nil (Nat.toDigits_ne_nil (n := n) (b := 10))
  exact ⟨c, cs, hn, isDigit_of_mem_toDigits (hn ▸ List.mem_cons_self)⟩

/-- The escapes of one character. -/
def shortEscapes : List (Char × Char) :=
  [('"', '"'), ('\\', '\\'), ('/', '/'), ('\x08', 'b'), ('\x0c', 'f'), ('\n', 'n'), ('\r', 'r'),
    ('\t', 't')]

/-- The four digits are those of a number, in upper or lower case. -/
def IsHex (n : ℕ) (ds : List Char) : Prop :=
  ∃ a b c d, ds.map hexValue? = [some a, some b, some c, some d] ∧
    n = ((a * 16 + b) * 16 + c) * 16 + d

/-- The texts that stand for a character in a string. One beyond the basic plane is escaped by two
surrogates. -/
inductive CharSpelled (c : Char) : List Char → Prop
  | plain (quote : c ≠ '"') (slash : c ≠ '\\') (control : 32 ≤ c.toNat) : CharSpelled c [c]
  | short {e : Char} (listed : (c, e) ∈ shortEscapes) : CharSpelled c ['\\', e]
  | number {ds : List Char} (digits : IsHex c.toNat ds) : CharSpelled c ('\\' :: 'u' :: ds)
  | surrogates {high low : ℕ} {ds es : List Char} (first : IsHex (0xD800 + high) ds)
      (second : IsHex (0xDC00 + low) es) (hlow : low < 0x400)
      (value : c.toNat = 0x10000 + high * 0x400 + low) :
      CharSpelled c ('\\' :: 'u' :: (ds ++ '\\' :: 'u' :: es))

/-- What is written for a character. -/
def charText (c : Char) : List Char :=
  match c with
  | '"' => ['\\', '"']
  | '\\' => ['\\', '\\']
  | '\x08' => ['\\', 'b']
  | '\x0c' => ['\\', 'f']
  | '\n' => ['\\', 'n']
  | '\r' => ['\\', 'r']
  | '\t' => ['\\', 't']
  | c => if c.toNat < 32 then '\\' :: 'u' :: Text.hexPadded 4 c.toNat else [c]

lemma hexValue?_hexDigit {n : ℕ} (h : n < 16) : hexValue? (Text.hexDigit n) = some n := by
  have key : ∀ n < 16, hexValue? (Text.hexDigit n) = some n := by decide +kernel
  exact key n h

lemma isHex_hexPadded {n : ℕ} (h : n < 0x10000) : IsHex n (Text.hexPadded 4 n) := by
  refine ⟨n / 16 / 16 / 16 % 16, n / 16 / 16 % 16, n / 16 % 16, n % 16, ?_, by omega⟩
  have hdigit : ∀ m, hexValue? (Text.hexDigit (m % 16)) = some (m % 16) := fun m =>
    hexValue?_hexDigit (Nat.mod_lt _ (by omega))
  simp [Text.hexPadded, hdigit]

lemma charSpelled_charText (c : Char) : CharSpelled c (charText c) := by
  unfold charText
  split
  · exact .short (by decide)
  · exact .short (by decide)
  · exact .short (by decide)
  · exact .short (by decide)
  · exact .short (by decide)
  · exact .short (by decide)
  · exact .short (by decide)
  · next hquote hslash _ _ _ _ _ =>
    split
    · exact .number (isHex_hexPadded (by omega))
    · exact .plain hquote hslash (by omega)

/-! ### Values -/

/-- The texts that stand for a value, and the one that is written. -/
structure Spelling (α : Type) where
  texts : α → List Char → Prop
  text : α → List Char
  written : ∀ a, texts a (text a)
  begins : ∀ {a cs}, texts a cs → Begins cs

namespace Spelling

/-- The spelling of what is told by another value. -/
def comap (f : α → β) (S : Spelling β) : Spelling α where
  texts a := S.texts (f a)
  text a := S.text (f a)
  written a := S.written (f a)
  begins := S.begins

def string : Spelling String where
  texts s cs := ∃ ts, List.Forall₂ CharSpelled s.toList ts ∧ cs = '"' :: (ts.flatten ++ ['"'])
  text s := '"' :: (s.toList.flatMap charText ++ ['"'])
  written s := ⟨s.toList.map charText,
    List.forall₂_map_right_iff.mpr (List.forall₂_same.mpr fun c _ => charSpelled_charText c),
    by rw [List.flatMap_def]⟩
  begins := by
    rintro s _ ⟨ts, -, rfl⟩
    exact ⟨_, _, rfl, by decide, by decide⟩

def bool : Spelling Bool where
  texts b cs := cs = (if b then "true" else "false").toList
  text b := (if b then "true" else "false").toList
  written _ := rfl
  begins := by
    rintro (_ | _) _ rfl
    · exact ⟨'f', _, rfl, by decide, by decide⟩
    · exact ⟨'t', _, rfl, by decide, by decide⟩

/-- A number in decimal, without zeros in front. -/
def nat : Spelling ℕ where
  texts n cs := cs = Nat.toDigits 10 n
  text n := Nat.toDigits 10 n
  written _ := rfl
  begins := by
    rintro n _ rfl
    obtain ⟨c, rest, hn, hc⟩ := exists_toDigits_eq_cons n
    exact ⟨c, rest, hn, isSpace_of_isDigit hc, by rintro rfl; exact absurd hc (by decide)⟩

/-- A value, or nothing. -/
def nullable (S : Spelling α) : Spelling (Option α) where
  texts o cs := match o with
    | none => cs = "null".toList
    | some a => S.texts a cs
  text o := match o with
    | none => "null".toList
    | some a => S.text a
  written o := match o with
    | none => rfl
    | some a => S.written a
  begins {o _} h := match o, h with
    | none, h => ⟨'n', _, h, by decide, by decide⟩
    | some _, h => S.begins h

def list (S : Spelling α) : Spelling (List α) where
  texts as cs := ∃ ts, List.Forall₂ S.texts as ts ∧ Enclosed '[' ']' ts cs
  text as := enclose '[' ']' (as.map S.text)
  written as := ⟨as.map S.text,
    List.forall₂_map_right_iff.mpr (List.forall₂_same.mpr fun a _ => S.written a),
    enclosed_enclose _ _ _⟩
  begins := by
    rintro as cs ⟨ts, -, h⟩
    exact h.begins (by decide) (by decide)

end Spelling

/-! ### Objects -/

/-- A member of the object of a value. -/
structure Member (α : Type) where
  key : String
  spelling : Spelling α
  /-- The member may be left out. -/
  mayLack : α → Prop

namespace Member

/-- A member that is always there. -/
def required (key : String) (S : Spelling β) (get : α → β) : Member α :=
  ⟨key, S.comap get, fun _ => False⟩

/-- A member that may be left out if it has its default value. -/
def defaulted (key : String) (S : Spelling β) (get : α → β) (default : β) : Member α :=
  ⟨key, S.comap get, fun a => get a = default⟩

/-- A key and its value. -/
def Spelled (m : Member α) (a : α) (cs : List Char) : Prop :=
  ∃ key ws ws' t, Spelling.string.texts m.key key ∧ IsBlanks ws ∧ IsBlanks ws' ∧
    m.spelling.texts a t ∧ cs = key ++ (ws ++ ':' :: (ws' ++ t))

def text (a : α) (m : Member α) : List Char :=
  Spelling.string.text m.key ++ ':' :: m.spelling.text a

lemma spelled_text (m : Member α) (a : α) : m.Spelled a (m.text a) :=
  ⟨_, [], [], _, Spelling.string.written m.key, isBlanks_nil, isBlanks_nil, m.spelling.written a,
    rfl⟩

lemma forall₂_text (ms : List (Member α)) (a : α) :
    List.Forall₂ (fun m t => m.Spelled a t) ms (ms.map (·.text a)) :=
  List.forall₂_map_right_iff.mpr (List.forall₂_same.mpr fun m _ => m.spelled_text a)

end Member

/-- The spelling as an object. Its members stand in any order, and those that may lack need not be
there. -/
def Spelling.object (ms : List (Member α)) : Spelling α where
  texts a cs := ∃ given ts, List.Subperm given ms ∧ (∀ m ∈ ms, m ∈ given ∨ m.mayLack a) ∧
    List.Forall₂ (fun m t => m.Spelled a t) given ts ∧ Enclosed '{' '}' ts cs
  text a := enclose '{' '}' (ms.map (·.text a))
  written a := ⟨ms, ms.map (·.text a), .refl ms, fun _ hm => .inl hm, Member.forall₂_text ms a,
    enclosed_enclose _ _ _⟩
  begins := by
    rintro a cs ⟨given, ts, -, -, -, h⟩
    exact h.begins (by decide) (by decide)

end SchemaGo.Json
