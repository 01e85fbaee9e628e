import SchemaGo.Config
import SchemaGo.Go.Literal
import SchemaGo.Query.Row

/-!
The file of a query: its statement, the type of its rows if no table has it, and the function
that runs it.
-/

namespace SchemaGo

open Go

/-- An argument of the function, beside the context and the database. -/
structure Argument where
  name : String
  type : ColumnType
deriving DecidableEq, Repr

def Parameter.argument (p : Parameter) : Argument :=
  ⟨argumentName p.name, Merge.columnType p.type⟩

structure QueryFile where
  package : String
  models : String
  /-- The packages of the standard library. -/
  imports : List String
  /-- The path of the models package, if the file names it. -/
  modelsImport? : Option String
  function : String
  constant : String
  sql : String
  arguments : List Argument
  returns : Returns Row
deriving DecidableEq, Repr

namespace QueryFile

def contextImport : String := "context"

/-- The packages that a file may import, in their order. -/
def knownImports : List String := [contextImport, jsonImport, timeImport]

/-- The fields of the row type that the file declares. -/
def rowFields (returns : Returns Row) : List RowField :=
  (returns.row?.bind (·.fields?)).getD []

def neededImports (arguments : List Argument) (returns : Returns Row) : List String :=
  contextImport :: arguments.flatMap (·.type.importPath?.toList) ++
    (rowFields returns).flatMap (·.imports)

/-- Whether the rows have the type of a table. -/
def isBound : Returns RowBinding → Bool
  | .one (.table _) | .many (.table _) => true
  | _ => false

/-- Whether the file names a type of the models package. -/
def namesModels (plan : Returns RowBinding) (arguments : List Argument)
    (returns : Returns Row) : Bool :=
  isBound plan || arguments.any (·.type.isUser) || (rowFields returns).any (·.type.isUser)

end QueryFile

/-- How the rows of a function are read. -/
def Query.returns (q : Query) (models : String) : Returns RowBinding →
    Except RepeatedField (Returns Row)
  | .one b => .one <$> q.row models b
  | .many b => .many <$> q.row models b
  | .errorOnly => .ok .errorOnly
  | .affectedRows => .ok .affectedRows

open QueryFile in
/-- The file of a query. The end of the name of the constant keeps arguments from hiding it. -/
def Query.file (q : Query) (tables : List Table) (c : Config) :
    Except RepeatedField QueryFile := do
  let plan := q.plan tables
  let arguments := q.orderedParameters.map (·.argument)
  let returns ← q.returns c.modelsPackage plan
  return {
    package := c.queriesPackage
    models := c.modelsPackage
    imports := knownImports.filter (neededImports arguments returns).contains
    modelsImport? := if namesModels plan arguments returns then some c.modelsImport else none
    function := Naming.pascalCase q.name
    constant := Naming.camelCase q.name ++ "SQL"
    sql := q.sql
    arguments
    returns }

end SchemaGo
