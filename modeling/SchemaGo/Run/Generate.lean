import SchemaGo.Run.Report

/-!
A run: all files of a schema, one after the other. A file that fails does not stop the run.
-/

namespace SchemaGo

/-- The directory of a package cannot be used. -/
structure BadDirectory where
  path : String
  error : IoError
deriving DecidableEq, Repr

def BadDirectory.failure (b : BadDirectory) : Failure := .io b.path b.error

/-- Makes one directory after the other, up to the first that cannot be made. -/
def FileTree.makeAllDirs (t : FileTree) : List String → Except BadDirectory Unit × FileTree
  | [] => (.ok (), t)
  | d :: ds =>
    match t.makeDirs d with
    | (.ok (), t) => t.makeAllDirs ds
    | (.error e, t) => (.error ⟨d, e⟩, t)

namespace Schema

def hasModels (s : Schema) : Bool :=
  !(s.tables.isEmpty && s.enums.isEmpty && s.composites.isEmpty)

/-- The directories into which a run writes. -/
def outputDirs (s : Schema) (c : Config) : List String :=
  (if s.hasModels then [c.modelsDir] else []) ++
    (if s.queries.isEmpty then [] else [c.queriesDir])

end Schema

/-- Brings the files of the artifacts up to date, in order. -/
def syncAll (tables : List Table) (c : Config) : List Artifact → FileTree → Report × FileTree
  | [], t => ([], t)
  | a :: as, t =>
    let (result, t) := a.sync tables c t
    let (report, t) := syncAll tables c as t
    (⟨a.label, a.path c, result⟩ :: report, t)

/-- Makes the files of a schema. A check makes no directories. -/
def generate (s : Schema) (c : Config) (t : FileTree) : Except BadDirectory Report × FileTree :=
  match t.makeAllDirs (if c.mode = .write then s.outputDirs c else []) with
  | (.error b, t) => (.error b, t)
  | (.ok (), t) =>
    let (report, t) := syncAll s.tables c s.artifacts t
    (.ok report, t)

end SchemaGo
