import Mathlib
import SchemaGo.Proofs.Go.Literal

/-!
The values of string literals. A string of Go is a sequence of bytes. An interpreted literal stands
for its characters and escapes, one behind the other, and a raw literal for its characters without
the carriage returns. So an interpreted literal of any text has that text as its value, and a raw one
has it only if the text has no carriage returns.
-/

namespace SchemaGo.Go

open Text

variable {xs cs : List Char}

namespace LiteralValue

/-! ### Numbers -/

def digit? (base : ℕ) (c : Char) : Option ℕ :=
  let value :=
    if c.isDigit then c.toNat - '0'.toNat
    else if 'a' ≤ c ∧ c ≤ 'f' then 10 + (c.toNat - 'a'.toNat)
    else if 'A' ≤ c ∧ c ≤ 'F' then 10 + (c.toNat - 'A'.toNat)
    else base
  if value < base then some value else none

/-- The number whose `k` digits the text begins with. -/
def number? (base k : ℕ) (cs : List Char) : Option ℕ :=
  if k ≤ cs.length then
    ((cs.take k).mapM (digit? base)).map fun ds => Nat.ofDigits base ds.reverse
  else none

lemma digit?_hexDigit {n : ℕ} (h : n < 16) : digit? 16 (hexDigit n) = some n := by
  have key : ∀ n < 16, digit? 16 (hexDigit n) = some n := by decide
  exact key n h

lemma mapM_digit?_hexPadded (k n : ℕ) :
    ∃ ds, (hexPadded k n).mapM (digit? 16) = some ds ∧
      Nat.ofDigits 16 ds.reverse = n % 16 ^ k := by
  induction k generalizing n with
  | zero => exact ⟨[], rfl, by simp [Nat.mod_one]⟩
  | succ k ih =>
    obtain ⟨ds, hds, hn⟩ := ih (n / 16)
    refine ⟨ds ++ [n % 16], ?_, ?_⟩
    · simp [hexPadded, List.mapM_append, hds, digit?_hexDigit (Nat.mod_lt n (by omega : 0 < 16))]
    · rw [List.reverse_append, List.reverse_singleton, List.singleton_append, Nat.ofDigits_cons, hn,
        pow_succ', Nat.mod_mul]

lemma number?_hexPadded {k n : ℕ} (h : n < 16 ^ k) (cs : List Char) :
    number? 16 k (hexPadded k n ++ cs) = some n := by
  obtain ⟨ds, hds, hn⟩ := mapM_digit?_hexPadded k n
  rw [number?, if_pos (by simp [hexPadded_length]), List.take_left' (hexPadded_length k n), hds,
    Option.map_some, hn, Nat.mod_eq_of_lt h]

/-! ### Values -/

/-- The bytes of the character with the number `n`. -/
def scalar? (n : ℕ) : Option (List UInt8) :=
  if n.isValidChar then some (String.utf8EncodeChar (Char.ofNat n)) else none

def byte? (n : ℕ) : Option (List UInt8) := if n < 256 then some [n.toUInt8] else none

/-- The escapes of a single character. -/
def singleEscapes : List (Char × Char) :=
  [('a', '\x07'), ('b', '\x08'), ('f', '\x0c'), ('n', '\n'), ('r', '\r'), ('t', '\t'),
    ('v', '\x0b'), ('\\', '\\'), ('"', '"')]

/-- The bytes of the escape that stands behind a backslash, and the number of its characters. -/
def escape? : List Char → Option (List UInt8 × ℕ)
  | [] => none
  | 'x' :: cs => (number? 16 2 cs >>= byte?).map (·, 3)
  | 'u' :: cs => (number? 16 4 cs >>= scalar?).map (·, 5)
  | 'U' :: cs => (number? 16 8 cs >>= scalar?).map (·, 9)
  | c :: cs =>
    match singleEscapes.lookup c with
    | some d => some (String.utf8EncodeChar d, 1)
    | none => (number? 8 3 (c :: cs) >>= byte?).map (·, 3)

/-- The bytes of an interpreted literal behind its first quote, of which `skip` characters have been
read. No line ends in it, and it ends with the next quote. -/
def interpretedFrom : ℕ → List Char → Option (List UInt8)
  | _, [] => none
  | skip + 1, _ :: cs => interpretedFrom skip cs
  | 0, c :: cs =>
    if c = '"' then if cs.isEmpty then some [] else none
    else if c = '\n' then none
    else if c = '\\' then
      (escape? cs).bind fun e => (interpretedFrom e.2 cs).map (e.1 ++ ·)
    else (interpretedFrom 0 cs).map (String.utf8EncodeChar c ++ ·)

/-- The bytes of a raw literal behind its first backquote. -/
def rawFrom : List Char → Option (List UInt8)
  | [] => none
  | c :: cs =>
    if c = '\x60' then if cs.isEmpty then some [] else none
    else if c = '\r' then rawFrom cs
    else (rawFrom cs).map (String.utf8EncodeChar c ++ ·)

end LiteralValue

open LiteralValue

/-- The string that a text is the literal of, if it is one. -/
def literalValue? (literal : String) : Option ByteArray :=
  (match literal.toList with
    | '"' :: cs => interpretedFrom 0 cs
    | '\x60' :: cs => rawFrom cs
    | _ => none).map List.toByteArray

example : literalValue? "\"\\x41\\102\\u00e9\\\"\"" = some "AB\u00e9\"".toUTF8 := by decide

namespace LiteralValue

/-! ### Interpreted literals -/

lemma interpretedFrom_eq_drop (skip : ℕ) (cs : List Char) :
    interpretedFrom skip cs = interpretedFrom 0 (cs.drop skip) := by
  induction cs generalizing skip with
  | nil => cases skip <;> rfl
  | cons c cs ih =>
    cases skip with
    | zero => rfl
    | succ skip => exact ih skip

lemma interpretedFrom_escape {bs : List UInt8} {n : ℕ} (h : escape? cs = some (bs, n)) :
    interpretedFrom 0 ('\\' :: cs) = (interpretedFrom 0 (cs.drop n)).map (bs ++ ·) := by
  simp [interpretedFrom, h, interpretedFrom_eq_drop n cs]

lemma interpretedFrom_single {c d : Char}
    (h : escape? (c :: cs) = some (String.utf8EncodeChar d, 1)) :
    interpretedFrom 0 ('\\' :: c :: cs) =
      (interpretedFrom 0 cs).map (String.utf8EncodeChar d ++ ·) :=
  interpretedFrom_escape h

lemma escape?_hexPadded {c : Char} (h : isControl c = true) (cs : List Char) :
    escape? ('u' :: (hexPadded 4 c.toNat ++ cs)) = some (String.utf8EncodeChar c, 5) := by
  have hlt : c.toNat < 16 ^ 4 := by
    simp only [isControl, Bool.or_eq_true, Bool.and_eq_true, decide_eq_true_eq] at h
    omega
  have hscalar : scalar? c.toNat = some (String.utf8EncodeChar c) := by
    rw [scalar?, if_pos (show c.toNat.isValidChar from c.valid), Char.ofNat_toNat]
  rw [escape?, number?_hexPadded hlt, Option.bind_eq_bind, Option.bind_some, hscalar]
  rfl

/-- What stands for a character in an interpreted literal has its bytes as value. -/
lemma interpretedFrom_literalChar (c : Char) (cs : List Char) :
    interpretedFrom 0 (literalChar c ++ cs) =
      (interpretedFrom 0 cs).map (String.utf8EncodeChar c ++ ·) := by
  unfold literalChar
  split
  · exact interpretedFrom_single rfl
  · exact interpretedFrom_single rfl
  · exact interpretedFrom_single rfl
  · exact interpretedFrom_single rfl
  · exact interpretedFrom_single rfl
  · next hquote hslash hline _ _ =>
    split
    · next hc =>
      have hdrop : ('u' :: (hexPadded 4 c.toNat ++ cs)).drop 5 = cs := by
        rw [List.drop_succ_cons, List.drop_left' (hexPadded_length 4 c.toNat)]
      rw [List.cons_append, List.cons_append, interpretedFrom_escape (escape?_hexPadded hc cs),
        hdrop]
    · rw [List.singleton_append, interpretedFrom, if_neg hquote, if_neg hline, if_neg hslash]

lemma interpretedFrom_literal (xs : List Char) :
    interpretedFrom 0 (xs.flatMap literalChar ++ ['"']) =
      some (xs.flatMap String.utf8EncodeChar) := by
  induction xs with
  | nil => rfl
  | cons x xs ih =>
    rw [List.flatMap_cons, List.append_assoc, interpretedFrom_literalChar, ih]
    rfl

/-! ### Raw literals -/

lemma rawFrom_eq (h : '\x60' ∉ xs) :
    rawFrom (xs ++ ['\x60']) = some ((xs.filter (· ≠ '\r')).flatMap String.utf8EncodeChar) := by
  induction xs with
  | nil => rfl
  | cons x xs ih =>
    rw [List.mem_cons, not_or] at h
    rw [List.cons_append, rawFrom, if_neg (Ne.symm h.1), ih h.2]
    by_cases hx : x = '\r' <;> simp [hx]

end LiteralValue

/-! ### Values of literals -/

lemma toUTF8_ofList (cs : List Char) :
    (String.ofList cs).toUTF8 = (cs.flatMap String.utf8EncodeChar).toByteArray := rfl

/-- An interpreted literal has its text as value. -/
lemma literalValue?_stringLiteral (s : String) :
    literalValue? (stringLiteral s) = some s.toUTF8 := by
  have h : (stringLiteral s).toList = '"' :: (s.toList.flatMap literalChar ++ ['"']) := by
    simp [stringLiteral]
  have hutf8 := toUTF8_ofList s.toList
  rw [String.ofList_toList] at hutf8
  simp only [literalValue?, h, interpretedFrom_literal, Option.map_some, hutf8]

/-- A raw literal loses the carriage returns of its text. -/
lemma literalValue?_raw {s : String} (h : '\x60' ∉ s.toList) :
    literalValue? ("\x60" ++ s ++ "\x60") =
      some (String.ofList (s.toList.filter (· ≠ '\r'))).toUTF8 := by
  have hraw : ("\x60" ++ s ++ "\x60").toList = '\x60' :: (s.toList ++ ['\x60']) := by simp
  simp only [literalValue?, hraw, rawFrom_eq h, Option.map_some, toUTF8_ofList]

/-- **The constant of a statement.** Its literal always has a value. That is the statement without
the blanks around it, but where the statement has no backquote, its carriage returns are missing. -/
theorem literalValue?_sqlLiteral (sql : String) :
    let text := trim sql.toList
    literalValue? (sqlLiteral sql) = some (String.ofList
      (if '\x60' ∈ text then text else text.filter (· ≠ '\r'))).toUTF8 ∧
    (literalValue? (sqlLiteral sql) = some (String.ofList text).toUTF8 ↔
      ('\r' ∈ text → '\x60' ∈ text)) := by
  intro text
  have hvalue : literalValue? (sqlLiteral sql) = some (String.ofList
      (if '\x60' ∈ text then text else text.filter (· ≠ '\r'))).toUTF8 := by
    simp only [sqlLiteral, String.toList_ofList, List.contains_iff_mem]
    split
    · exact literalValue?_stringLiteral _
    · next h => rw [literalValue?_raw (by simpa using h), String.toList_ofList]
  refine ⟨hvalue, ?_⟩
  rw [hvalue, Option.some_inj]
  constructor
  · intro h hr
    have htext := String.ofList_injective (String.toByteArray_inj.mp h)
    by_contra hn
    rw [if_neg hn, List.filter_eq_self] at htext
    simpa using htext '\r' hr
  · intro h
    split
    · rfl
    · next hn =>
      have hkept : ∀ c ∈ text, decide (c ≠ '\r') = true := by
        intro c hc
        rw [decide_eq_true_iff]
        rintro rfl
        exact hn (h hc)
      rw [List.filter_eq_self.mpr hkept]

/-- A statement with lines that end in a carriage return and a line feed. -/
def deleteUser : String := "DELETE FROM users\r\nWHERE id = $1"

theorem literalValue?_deleteUser :
    sqlLiteral deleteUser = "\x60DELETE FROM users\r\nWHERE id = $1\x60" ∧
      literalValue? (sqlLiteral deleteUser) = some "DELETE FROM users\nWHERE id = $1".toUTF8 ∧
      literalValue? (sqlLiteral deleteUser) ≠
        some (String.ofList (trim deleteUser.toList)).toUTF8 := by
  decide

end SchemaGo.Go
