import SchemaGo.Naming
import SchemaGo.Schema.DataType

/-!
The Go types of columns and parameters.
-/

namespace SchemaGo.Go

open Schema

def timeImport : String := "time"

def jsonImport : String := "encoding/json"

/-- The imports that come and go with the types of a file. -/
def managedImports : List String := [jsonImport, timeImport]

inductive BaseType
  | scalar (name : String)
  | bytes
  | json
  | time
  /-- A type that is declared in the models package. -/
  | user (name : String)
deriving DecidableEq, Repr

namespace BaseType

def text : BaseType → String
  | scalar s | user s => s
  | bytes => "[]byte"
  | json => "json.RawMessage"
  | time => "time.Time"

def importPath? : BaseType → Option String
  | json => some jsonImport
  | time => some timeImport
  | _ => none

/-- The type has a value of its own for what is absent. -/
def nilSafe : BaseType → Bool
  | bytes | json => true
  | _ => false

/-- Numbers of exact precision, and whatever else has no Go type of its own, are strings. -/
def ofDataType : DataType → BaseType
  | .smallInt => scalar "int16"
  | .integer => scalar "int32"
  | .bigInt => scalar "int64"
  | .real => scalar "float32"
  | .doublePrecision => scalar "float64"
  | .boolean => scalar "bool"
  | .binary => bytes
  | .json | .jsonBinary => json
  | .date | .time | .timeTz | .timestamp | .timestampTz => time
  | .oid => scalar "uint32"
  | .text | .uuid | .interval | .numeric | .money | .network | .bitString | .xml | .geometric
  | .fullText => scalar "string"
  | .custom name => user (Naming.pascalCase name)

end BaseType

structure ColumnType where
  base : BaseType
  slice : Bool := false
  pointer : Bool := false
deriving DecidableEq, Repr

namespace ColumnType

/-- The type that the models package declares for an item of the schema. -/
def user (name : String) : ColumnType := { base := .user (Naming.pascalCase name) }

def sliceOf (t : ColumnType) : ColumnType := { t with slice := true }

/-- The type of a column, from the raw name of its database type. A column that may be null
is a pointer, unless its type has a value for that. -/
def ofName (raw : String) (isArray isNullable : Bool) : ColumnType :=
  let (dataType, folded) := DataType.ofName raw
  let base := BaseType.ofDataType dataType
  let slice := isArray || folded
  { base, slice, pointer := isNullable && !slice && !base.nilSafe }

def importPath? (t : ColumnType) : Option String := t.base.importPath?

def isUser (t : ColumnType) : Bool := t.base matches .user _

/-- What stands before the base of the type. -/
def marks (t : ColumnType) : String :=
  (if t.pointer then "*" else "") ++ (if t.slice then "[]" else "")

/-- The type as the models package writes it. -/
def render (t : ColumnType) : String := t.marks ++ t.base.text

/-- The type as another package writes it. -/
def qualified (models : String) (t : ColumnType) : String :=
  t.marks ++ (if t.isUser then models ++ "." else "") ++ t.base.text

end ColumnType

end SchemaGo.Go
