/-!
The lexemes of Go source. Blanks, line breaks and comments are lexemes too, and operators are
left as single characters, so the texts of the lexemes of a source spell the source.
-/

namespace SchemaGo.Go

inductive Lexeme
  /-- White space without a line break. -/
  | blank (text : String)
  | newline
  | comment (text : String)
  /-- An identifier or a keyword: which of them, only the grammar can tell. -/
  | word (name : String)
  | number (text : String)
  /-- An interpreted or a raw string literal. -/
  | string (text : String)
  | rune (text : String)
  | mark (c : Char)
deriving DecidableEq, Repr, Inhabited

namespace Lexeme

def text : Lexeme → String
  | blank s | comment s | word s | number s | string s | rune s => s
  | newline => "\n"
  | mark c => c.toString

/-- The source that the lexemes spell. -/
def spell (ts : List Lexeme) : String := String.join (ts.map text)

end Lexeme

end SchemaGo.Go
