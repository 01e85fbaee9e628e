import SchemaGo.Go.ColumnType
import SchemaGo.Go.File
import SchemaGo.Go.Generated
import SchemaGo.Go.Name
import SchemaGo.Schema.Basic

/-!
What the merges of model files have in common: finding the declarations that the generator
owns, the fields of columns, and the imports that come and go with them.
-/

namespace SchemaGo.Merge

open Go

/-- What a name is taken by. -/
inductive Owner
  | declaration (shape : Shape)
  | column
  | member
  | querier
deriving DecidableEq, Repr

def Owner.description : Owner → String
  | declaration s => s.description
  | column => "the field of another column"
  | member => "another enum member"
  | querier => "the shared querier"

/-- A name that is taken already. -/
structure Collision where
  name : String
  owner : Owner
deriving DecidableEq, Repr

namespace Collision

def message (c : Collision) : String :=
  "'" ++ c.name ++ "' is already declared as " ++ c.owner.description

/-- The message about a collision in the file at `path`. -/
def messageIn (c : Collision) (path : String) : String :=
  "'" ++ c.name ++ "' in '" ++ path ++ "' is already declared as " ++ c.owner.description

end Collision

/-- The place of the struct `name`, if anything declares the name. -/
def locateStruct (f : File) (name : String) : Except Collision (Option Nat) :=
  match f.find? name with
  | none => .ok none
  | some (i, d) =>
    match d.shape with
    | .struct _ _ => .ok (some i)
    | s => .error ⟨name, .declaration s⟩

/-! ### Fields -/

def columnType (t : TypeRef) : ColumnType := .ofName t.name t.isArray t.isNullable

/-- The fields of a struct, and the imports that their types need. -/
structure Fields where
  fields : List Field
  imports : List String
deriving DecidableEq, Repr

def Fields.add (fs : Fields) (f : Field) (importPath? : Option String) : Fields :=
  ⟨fs.fields ++ [f], fs.imports ++ importPath?.toList⟩

/-- Adds a field for each column. Columns whose names differ in case or separators alone would
share a field. -/
def addColumns (fs : Fields) (seen : List String) : List Column → Except Collision Fields
  | [] => .ok fs
  | c :: cs =>
    let name := fieldName c.name
    if seen.contains name then .error ⟨name, .column⟩
    else
      let t := columnType c.type
      addColumns (fs.add (.named name t.render) t.importPath?) (name :: seen) cs

def columnFields (cs : List Column) : Except Collision Fields := addColumns ⟨[], []⟩ [] cs

/-! ### Imports -/

/-- Whether what is preserved refers to the import of `path` by its local name. -/
def isReferenced (f : File) (path : String) : Bool :=
  f.imports.any fun s => s.path == path && f.preservedQualifiers.contains s.localName

/-- Adds the import of `path`, or drops it. -/
def setImport (f : File) (path : String) (keep : Bool) : File :=
  if keep then f.addImport path else if f.hasImport path then f.removeImport path else f

/-- Adds the managed imports that are needed, and drops those that neither are needed nor
referred to by what is preserved. -/
def syncImports (f : File) (needed : List String) : File :=
  let keep := fun path => needed.contains path || isReferenced f path
  managedImports.foldl (fun g path => setImport g path (keep path)) f

end SchemaGo.Merge
