import SchemaGo.Json.Fault

/-!
The lexical side of JSON: blanks, words, strings, and values that are passed over. A reader
stops at the first character that does not fit and says what is wrong with it.
-/

namespace SchemaGo.Json

/-- Readers of a document; what they leave over is the rest of its characters. -/
abbrev Decoder := StateT (List Char) (Except Fault)

def isSpace (c : Char) : Bool := c == ' ' || c == '\t' || c == '\n' || c == '\r'

namespace Decoder

def fail (f : Fault) : Decoder α := fun _ => .error f

/-- The next character that is not a blank. It is not taken. -/
def peek : Decoder (Option Char) := fun cs =>
  let rest := cs.dropWhile isSpace
  .ok (rest.head?, rest)

/-- As `peek`, where the document may not end. -/
def peekOr (what : Unfinished) : Decoder Char := do
  match ← peek with
  | some c => return c
  | none => fail (.ended what)

def take : Decoder Unit := modify List.tail

/-- The rest of a word whose first character has been seen. -/
def word (w : List Char) : Decoder Unit := fun cs => go w.tail cs.tail
where
  go : List Char → List Char → Except Fault (Unit × List Char)
    | [], cs => .ok ((), cs)
    | _ :: _, [] => .error (.ended .value)
    | w :: ws, c :: cs => if c = w then go ws cs else .error .expectedWord

end Decoder

/-! ### Strings -/

def hexValue? (c : Char) : Option Nat :=
  if c.isDigit then some (c.toNat - 48)
  else if 'a' ≤ c ∧ c ≤ 'f' then some (c.toNat - 87)
  else if 'A' ≤ c ∧ c ≤ 'F' then some (c.toNat - 55)
  else none

/-- Four hexadecimal digits. Where fewer than four bytes are left, the string has no end. -/
def hexDigits (cs : List Char) : Except Fault (Nat × List Char) :=
  if (String.ofList (cs.take 4)).utf8ByteSize < 4 then .error (.ended .string)
  else
    match (cs.take 4).mapM hexValue? with
    | some [a, b, c, d] => .ok (((a * 16 + b) * 16 + c) * 16 + d, cs.drop 4)
    | _ => .error .badEscape

/-- The character behind `\u`. One beyond the basic plane is given by two surrogates. -/
def unicodeEscape (cs : List Char) : Except Fault (Char × List Char) := do
  let (n, rest) ← hexDigits cs
  if 0xDC00 ≤ n ∧ n ≤ 0xDFFF then .error .loneSurrogate
  else if n < 0xD800 ∨ 0xDBFF < n then .ok (Char.ofNat n, rest)
  else
    match rest with
    | [] | ['\\'] => .error (.ended .string)
    | '\\' :: 'u' :: rest =>
      let (low, rest) ← hexDigits rest
      if 0xDC00 ≤ low ∧ low ≤ 0xDFFF then
        .ok (Char.ofNat (0x10000 + (n - 0xD800) * 1024 + (low - 0xDC00)), rest)
      else .error .loneSurrogate
    | _ => .error .hexEscapeEnds

/-- The characters that stand for themselves or for a control character in an escape. -/
def simpleEscapes : List (Char × Char) :=
  [('"', '"'), ('\\', '\\'), ('/', '/'), ('b', '\x08'), ('f', '\x0c'), ('n', '\n'), ('r', '\r'),
    ('t', '\t')]

/-- The characters of a string behind its first quote, at most `n` of them. -/
def stringUpTo : Nat → List Char → Except Fault (List Char × List Char)
  | _, [] => .error (.ended .string)
  | 0, _ => .error (.ended .string)
  | n + 1, c :: cs =>
    if c = '"' then .ok ([], cs)
    else if c = '\\' then
      match cs with
      | [] => .error (.ended .string)
      | e :: cs => do
        let (d, rest) ←
          if e = 'u' then unicodeEscape cs
          else
            match simpleEscapes.lookup e with
            | some d => .ok (d, cs)
            | none => .error .badEscape
        let (text, rest) ← stringUpTo n rest
        return (d :: text, rest)
    else if c.toNat < 32 then .error .controlCharacter
    else do
      let (text, rest) ← stringUpTo n cs
      return (c :: text, rest)

/-- A string whose first quote is next. -/
def readString : Decoder String := fun cs => do
  let (text, rest) ← stringUpTo cs.length cs.tail
  return (String.ofList text, rest)

/-- Passes over a string behind its first quote; its surrogates need not be paired. -/
def skipStringUpTo : Nat → List Char → Except Fault (List Char)
  | _, [] => .error (.ended .string)
  | 0, _ => .error (.ended .string)
  | n + 1, c :: cs =>
    if c = '"' then .ok cs
    else if c = '\\' then
      match cs with
      | [] => .error (.ended .string)
      | e :: cs => do
        let rest ←
          if e = 'u' then (hexDigits cs).map (·.2)
          else if (simpleEscapes.lookup e).isSome then .ok cs
          else .error .badEscape
        skipStringUpTo n rest
    else if c.toNat < 32 then .error .controlCharacter
    else skipStringUpTo n cs

def skipString : Decoder Unit := fun cs => do
  return ((), ← skipStringUpTo cs.length cs.tail)

/-! ### Values without a use -/

/-- One digit or more. -/
def skipDigits (cs : List Char) : Except Fault (List Char) :=
  if cs.head?.any Char.isDigit then .ok (cs.dropWhile Char.isDigit) else .error .badNumber

/-- A number of any size. -/
def skipNumber (cs : List Char) : Except Fault (List Char) := do
  let cs := match cs with
    | '-' :: cs => cs
    | cs => cs
  let rest ← match cs with
    | '0' :: rest => if rest.head?.any Char.isDigit then .error .badNumber else .ok rest
    | cs => skipDigits cs
  let rest ← match rest with
    | '.' :: rest => skipDigits rest
    | rest => .ok rest
  match rest with
  | c :: rest =>
    if c = 'e' ∨ c = 'E' then
      match rest with
      | '+' :: rest | '-' :: rest => skipDigits rest
      | rest => skipDigits rest
    else .ok (c :: rest)
  | [] => .ok []

/-- What is left of a value that is passed over. -/
inductive Skip
  | value
  /-- The items of a list, from the next one on. -/
  | items
  /-- The members of an object, from the next key on. -/
  | members

open Decoder in
/-- Passes over a value; `n` bounds the number of steps. -/
def skipUpTo : Nat → Skip → Decoder Unit
  | 0, _ => fail (.ended .value)
  | n + 1, .value => do
    match ← peekOr .value with
    | 'n' => word "null".toList
    | 't' => word "true".toList
    | 'f' => word "false".toList
    | '"' => skipString
    | '[' =>
      take
      if (← peekOr .list) = ']' then take else skipUpTo n .items
    | '{' =>
      take
      if (← peekOr .object) = '}' then take else skipUpTo n .members
    | c =>
      if c = '-' ∨ c.isDigit then fun cs => do return ((), ← skipNumber cs)
      else fail .expectedValue
  | n + 1, .items => do
    skipUpTo n .value
    match ← peekOr .list with
    | ',' =>
      take
      skipUpTo n .items
    | ']' => take
    | _ => fail .expectedCommaOrBracket
  | n + 1, .members => do
    if (← peekOr .object) = '"' then skipString else fail .keyNotString
    if (← peekOr .object) = ':' then take else fail .expectedColon
    skipUpTo n .value
    match ← peekOr .object with
    | ',' =>
      take
      skipUpTo n .members
    | '}' => take
    | _ => fail .expectedCommaOrBrace

def skipValue : Decoder Unit := fun cs => skipUpTo (2 * cs.length + 2) .value cs

end SchemaGo.Json
