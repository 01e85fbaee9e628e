import SchemaGo.Text.Blank
import SchemaGo.Text.Quoted

/-!
String literals of Go.
-/

namespace SchemaGo.Go

open Text

/-- A character inside an interpreted literal. -/
def literalChar (c : Char) : List Char :=
  match c with
  | '"' => ['\\', '"']
  | '\\' => ['\\', '\\']
  | '\n' => ['\\', 'n']
  | '\r' => ['\\', 'r']
  | '\t' => ['\\', 't']
  | c => if isControl c then '\\' :: 'u' :: hexPadded 4 c.toNat else [c]

/-- An interpreted literal. -/
def stringLiteral (s : String) : String :=
  String.ofList ('"' :: s.toList.flatMap literalChar ++ ['"'])

/-- A raw literal, or an interpreted one where the text holds a backquote. Blanks around the
text are left out. -/
def sqlLiteral (sql : String) : String :=
  let text := String.ofList (trim sql.toList)
  if text.toList.contains '\x60' then stringLiteral text else "\x60" ++ text ++ "\x60"

end SchemaGo.Go
