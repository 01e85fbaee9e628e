import SchemaGo.FileTree
import SchemaGo.Merge.Source
import SchemaGo.Query.Querier
import SchemaGo.Query.Render

/-!
The files that are made from a schema, and how one of them is brought up to date.
-/

namespace SchemaGo

/-- Why a file cannot be made. -/
inductive Failure
  | io (path : String) (error : IoError)
  | read (path : String) (error : Go.ReadError)
  | collision (path : String) (collision : Merge.Collision)
  | repeatedField (repeated : RepeatedField)
deriving DecidableEq, Repr

def Failure.message : Failure → String
  | io path e => "I/O error on '" ++ path ++ "': " ++ e.message
  | read path e => "Failed to parse existing artifact '" ++ path ++ "': " ++ e.message
  | collision path c => c.messageIn path
  | repeatedField r => "Failed to load schema: " ++ r.message

def Failure.ofMerge (path : String) : Merge.MergeError → Failure
  | .read e => read path e
  | .collision c => collision path c

/-! ### Status -/

inductive Status
  | created
  | updated
  | unchanged
  /-- The file is missing or would change. -/
  | stale
deriving DecidableEq, Repr

def Status.label : Status → String
  | created => "created"
  | updated => "updated"
  | unchanged => "unchanged"
  | stale => "stale"

/-- The text of a file, if there is one. -/
def FileTree.existing (t : FileTree) (path : String) : Except Failure (Option String) :=
  match t.readText path with
  | .ok s => .ok (some s)
  | .error .notFound => .ok none
  | .error e => .error (.io path e)

/-- Writes a file whose old text is known. Whatever prevents that lies in the directory. -/
def FileTree.store (t : FileTree) (path : String) (old : Option String) (new : String) :
    Except Failure Status × FileTree :=
  match t.writeText path new with
  | .ok t => (.ok (if old.isSome then .updated else .created), t)
  | .error e => (.error (.io (Path.parent path) e), t)

/-- Brings a file up to date. Its new text is made from the old one, and nothing is written
before the text is complete. -/
def FileTree.sync (t : FileTree) (path : String) (mode : Mode)
    (render : Option String → Except Failure String) : Except Failure Status × FileTree :=
  match t.existing path with
  | .error f => (.error f, t)
  | .ok old =>
    match render old with
    | .error f => (.error f, t)
    | .ok new =>
      if old = some new then (.ok .unchanged, t)
      else
        match mode with
        | .check => (.ok .stale, t)
        | .write => t.store path old new

/-! ### Artifacts -/

inductive Artifact
  | model (model : Merge.Model)
  | querier
  | query (query : Query)
deriving DecidableEq, Repr

/-- The files for a schema, in the order in which they are made. Only a schema with queries
has a querier. -/
def Schema.artifacts (s : Schema) : List Artifact :=
  s.tables.map (.model <| .table ·) ++ s.enums.map (.model <| .enum ·) ++
    s.composites.map (.model <| .composite ·) ++
    if s.queries.isEmpty then [] else .querier :: s.queries.map .query

namespace Artifact

def label : Artifact → String
  | model (.table t) => "table " ++ t.name
  | model (.enum e) => "enum " ++ e.name
  | model (.composite c) => "composite " ++ c.name
  | querier => "querier"
  | query q => "query " ++ q.name

def querierName : String := "querier"

/-- The name of the file, without its ending. -/
def fileName : Artifact → String
  | model m => Naming.snakeCase m.name
  | querier => querierName
  | query q => Naming.snakeCase q.name

def dir (c : Config) : Artifact → String
  | model _ => c.modelsDir
  | querier | query _ => c.queriesDir

def path (c : Config) (a : Artifact) : String := Path.join (a.dir c) (a.fileName ++ ".go")

/-- The text of the file, from that which is there. Models keep what is written by hand; the
other files are made anew. -/
def content (tables : List Table) (c : Config) (a : Artifact) (old : Option String) :
    Except Failure String :=
  match a with
  | model m => (Merge.mergeSource m old c.modelsPackage).mapError (.ofMerge (a.path c))
  | querier => .ok (renderQuerier c.queriesPackage)
  | query q => ((q.file tables c).map (·.render)).mapError .repeatedField

/-- Why the file cannot be made, whatever the tree holds: the file of the querier is taken. -/
def blocked? (c : Config) (a : Artifact) : Option Failure :=
  match a with
  | query q =>
    if a.fileName = querierName then some (.collision (a.path c) ⟨q.name, .querier⟩) else none
  | _ => none

/-- Brings the file of an artifact up to date. -/
def sync (tables : List Table) (c : Config) (a : Artifact) (t : FileTree) :
    Except Failure Status × FileTree :=
  match a.blocked? c with
  | some f => (.error f, t)
  | none => t.sync (a.path c) c.mode (a.content tables c)

end Artifact

end SchemaGo
