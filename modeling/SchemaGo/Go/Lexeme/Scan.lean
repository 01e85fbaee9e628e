import SchemaGo.Go.Lexeme
import SchemaGo.Go.Lexeme.Number
import SchemaGo.Text.Blank
import SchemaGo.Unicode.Identifier

/-!
Source text as lexemes, each as long as its class allows. A quote or a comment that is not
closed is a mark, and so is every character of no other class; the grammar has no use for
most of these.
-/

namespace SchemaGo.Go

open Text Unicode

namespace Lexeme

/-- Whether `cs` begins with `n` hexadecimal digits. -/
def startsHex (n : Nat) (cs : List Char) : Bool :=
  let ds := cs.take n
  ds.length == n && ds.all Number.isHexDigit

/-- Whether the backslash before `c` and `cs` begins an escape of a string. -/
def isEscape (c : Char) (cs : List Char) : Bool :=
  match c with
  | 'x' => startsHex 2 cs
  | 'u' => startsHex 4 cs
  | 'U' => startsHex 8 cs
  | _ => true

/-- The length of an interpreted string after its first quote. -/
def stringLength : List Char → Option Nat
  | [] => none
  | '"' :: _ => some 1
  | '\n' :: _ => none
  | '\\' :: c :: cs => if isEscape c cs then (stringLength cs).map (· + 2) else none
  | _ :: cs => (stringLength cs).map (· + 1)

/-- The length of a raw string after its first backquote. -/
def rawLength : List Char → Option Nat
  | [] => none
  | c :: cs => if c == '\x60' then some 1 else (rawLength cs).map (· + 1)

/-- The length of a general comment after its first two characters. -/
def commentLength : List Char → Option Nat
  | [] => none
  | '*' :: '/' :: _ => some 2
  | _ :: cs => (commentLength cs).map (· + 1)

/-- The length of the escape of a rune after its backslash. -/
def runeEscapeLength : List Char → Option Nat
  | [] => none
  | c :: cs =>
    match c with
    | 'x' => if startsHex 2 cs then some 3 else none
    | 'u' => if startsHex 4 cs then some 5 else none
    | 'U' => if startsHex 8 cs then some 9 else none
    | _ =>
      if "abfnrtv\\'\"".toList.contains c then some 1
      else
        let ds := (c :: cs).take 3
        if ds.length == 3 && ds.all Number.isOctalDigit then some 3 else none

/-- The length of a rune literal after its first quote. -/
def runeLength : List Char → Option Nat
  | '\\' :: cs => do
    let n ← runeEscapeLength cs
    if cs[n]? = some '\'' then some (n + 2) else none
  | c :: '\'' :: _ => if c == '\'' then none else some 2
  | _ => none

/-- The lexeme that `make` gives to the first `n` of `cs`, and the others. -/
def split (make : String → Lexeme) (n : Nat) (cs : List Char) : Lexeme × List Char :=
  (make (String.ofList (cs.take n)), cs.drop n)

/-- As `split`, where `c` is a mark if no length is known. -/
def splitOrMark (make : String → Lexeme) (len : Option Nat) (c : Char) (cs : List Char) :
    Lexeme × List Char :=
  match len with
  | some n => split make (n + 1) (c :: cs)
  | none => (mark c, cs)

/-- The first lexeme of `c :: cs`, and what is left. -/
def scanOne (c : Char) (cs : List Char) : Lexeme × List Char :=
  if c == '\n' then (newline, cs)
  else if isBlank c then
    split blank ((cs.takeWhile fun d => isBlank d && d != '\n').length + 1) (c :: cs)
  else if isIdentStart c then
    split word ((cs.takeWhile isIdentPart).length + 1) (c :: cs)
  else
    match c, cs with
    | '"', _ => splitOrMark string (stringLength cs) c cs
    | '\x60', _ => splitOrMark string (rawLength cs) c cs
    | '\'', _ => splitOrMark rune (runeLength cs) c cs
    | '/', '/' :: _ => split comment ((cs.takeWhile (· != '\n')).length + 1) (c :: cs)
    | '/', '*' :: body => splitOrMark comment ((commentLength body).map (· + 1)) c cs
    | _, _ =>
      match Number.length (c :: cs) with
      | 0 => (mark c, cs)
      | n + 1 => split number (n + 1) (c :: cs)

/-- At most `n` lexemes of a text. -/
def scanUpTo : Nat → List Char → List Lexeme
  | _, [] => []
  | 0, _ => []
  | n + 1, c :: cs =>
    let (t, rest) := scanOne c cs
    t :: scanUpTo n rest

/-- The lexemes of a source. A byte order mark in front counts as a blank. -/
def scan (source : String) : List Lexeme :=
  match source.toList with
  | [] => []
  | c :: cs =>
    if c == '\uFEFF' then blank "\uFEFF" :: scanUpTo cs.length cs
    else scanUpTo (cs.length + 1) (c :: cs)

end Lexeme

end SchemaGo.Go
