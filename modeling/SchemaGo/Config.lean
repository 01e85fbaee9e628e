import SchemaGo.Path

/-!
Where the generated files go, and what their packages are called.
-/

namespace SchemaGo

inductive Mode
  | write
  /-- Tells which files are out of date and writes nothing. -/
  | check
deriving DecidableEq, Repr, Inhabited

structure Config where
  /-- The directory above those of the two packages. -/
  output : String
  modelsPackage : String := "models"
  queriesPackage : String := "queries"
  /-- The path by which the queries import the models, if it is not that of their directory. -/
  modelsImport? : Option String := none
  mode : Mode := .write
deriving DecidableEq, Repr, Inhabited

namespace Config

def modelsDir (c : Config) : String := Path.join c.output c.modelsPackage

def queriesDir (c : Config) : String := Path.join c.output c.queriesPackage

def modelsImport (c : Config) : String :=
  c.modelsImport?.getD ("/".intercalate (Path.names c.modelsDir))

end Config

end SchemaGo
