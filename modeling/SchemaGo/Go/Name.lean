import SchemaGo.Naming

/-!
Go identifiers for the columns and the parameters of a schema.
-/

namespace SchemaGo.Go

open Naming

/-- Whether the first character is a digit. -/
def startsWithDigit (s : String) : Bool := s.toList.head?.any Char.isDigit

/-- The exported field of a column. -/
def fieldName (column : String) : String :=
  let name := pascalCase column
  if name.isEmpty then "X" else if startsWithDigit name then "X" ++ name else name

def keywords : List String :=
  ["break", "case", "chan", "const", "continue", "default", "defer", "else", "fallthrough", "for",
    "func", "go", "goto", "if", "import", "interface", "map", "package", "range", "return",
    "select", "struct", "switch", "type", "var"]

/-- The names that the bodies of generated functions use. -/
def reservedLocals : List String :=
  ["context", "ctx", "db", "err", "i", "items", "json", "result", "row", "rows", "time"]

/-- The argument of a query parameter. -/
def argumentName (parameter : String) : String :=
  let name := camelCase parameter
  if name.isEmpty then "arg"
  else if startsWithDigit name || keywords.contains name || reservedLocals.contains name then
    name ++ "Arg"
  else name

end SchemaGo.Go
