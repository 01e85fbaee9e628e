import SchemaGo.Go.Literal
import SchemaGo.Go.Shape

/-!
Generated declarations: structs and blocks of string constants, set in columns.
-/

namespace SchemaGo.Go

open Text

inductive Field
  | named (name type : String)
  | embedded (type : String)
deriving DecidableEq, Repr, Inhabited

/-- The name that the field is addressed by. -/
def Field.address : Field → String
  | named n _ => n
  | embedded t => embeddedName t

/-- The width of a column of names. It is counted in bytes. -/
def columnWidth (names : List String) : Nat := (names.map String.utf8ByteSize).foldl max 0

def fieldLine (width : Nat) : Field → String
  | .named n t => "\t" ++ padded width n ++ " " ++ t ++ "\n"
  | .embedded t => "\t" ++ t ++ "\n"

def renderStruct (name : String) (fields : List Field) : String :=
  let width := columnWidth (fields.filterMap fun | .named n _ => some n | .embedded _ => none)
  "type " ++ name ++ " struct \x7b\n" ++ String.join (fields.map (fieldLine width)) ++ "\x7d"

def structShape (name : String) (fields : List Field) : Shape :=
  .struct name (fields.map Field.address)

/-- A constant of an enum, and its value. -/
structure Member where
  name : String
  value : String
deriving DecidableEq, Repr, Inhabited

def memberLine (width : Nat) (type : String) (m : Member) : String :=
  "\t" ++ padded width m.name ++ " " ++ type ++ " = " ++ stringLiteral m.value ++ "\n"

def renderConsts (type : String) (members : List Member) : String :=
  let width := columnWidth (members.map (·.name))
  "const (\n" ++ String.join (members.map (memberLine width type)) ++ ")"

def constsShape (type : String) (members : List Member) : Shape :=
  .consts (members.map fun m => ⟨[m.name], some type⟩)

end SchemaGo.Go
