import SchemaGo.Go.Generated
import SchemaGo.Merge.Basic
import SchemaGo.Query.Plan

/-!
How the columns of a result are read into the fields of a row.
-/

namespace SchemaGo

open Go

/-- A result column has the field of an earlier one. -/
structure RepeatedField where
  query : String
  column : String
  field : String
deriving DecidableEq, Repr

def RepeatedField.message (r : RepeatedField) : String :=
  "query '" ++ r.query ++ "': result column '" ++ r.column ++ "' maps to field '" ++ r.field ++
    "' more than once; alias it"

/-- Where the value of a column is put. -/
inductive Target
  | field (name : String)
  /-- Into bytes, which are decoded into a field when the row has been read. -/
  | decoded (bytes field : String)
deriving DecidableEq, Repr

namespace Target

def address : Target → String
  | field n => "&i." ++ n
  | decoded b _ => "&" ++ b

end Target

/-- A field of a row type that a query has for itself. -/
structure RowField where
  name : String
  type : ColumnType
  target : Target
deriving DecidableEq, Repr

/-- A JSON aggregate is a slice of the type of its elements. -/
def ResultColumn.rowField (c : ResultColumn) : RowField :=
  let name := fieldName c.name
  match c.isJsonAggregate, c.elementTable with
  | true, some element =>
    { name
      type := (ColumnType.user element).sliceOf
      target := .decoded (argumentName (c.name ++ "_raw")) name }
  | _, _ => { name, type := Merge.columnType c.type, target := .field name }

/-- The imports that the field needs. -/
def RowField.imports (f : RowField) : List String :=
  f.type.importPath?.toList ++
    match f.target with
    | .field _ => []
    | .decoded _ _ => [jsonImport]

/-- The first column whose field is among those of `seen`. -/
def repeated? (seen : List String) : List ResultColumn → Option ResultColumn
  | [] => none
  | c :: cs =>
    if seen.contains (fieldName c.name) then some c else repeated? (fieldName c.name :: seen) cs

/-- The fields of the row type that the query has for itself. -/
def Query.rowFields (q : Query) : Except RepeatedField (List RowField) :=
  match repeated? [] q.columns with
  | some c => .error ⟨q.name, c.name, fieldName c.name⟩
  | none => .ok (q.columns.map (·.rowField))

/-- How a row is read. -/
structure Row where
  type : String
  /-- The fields of the type, if the file of the query declares it. -/
  fields? : Option (List RowField)
  targets : List Target
deriving DecidableEq, Repr

def Query.row (q : Query) (models : String) : RowBinding → Except RepeatedField Row
  | .table t =>
    .ok
      { type := models ++ "." ++ t.typeName
        fields? := none
        targets := q.columns.map fun c => .field (fieldName c.name) }
  | .synthesized =>
    q.rowFields.map fun fields =>
      { type := Naming.pascalCase q.name ++ "Row"
        fields? := some fields
        targets := fields.map (·.target) }

end SchemaGo
