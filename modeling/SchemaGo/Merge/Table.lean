import SchemaGo.Merge.Basic

/-!
The model file of a table. Its main struct is generated anew; the struct beside it, which the
main struct embeds, is written by hand, and a column that has a field there gets none in the
main struct.
-/

namespace SchemaGo.Merge

open Go

/-- The empty struct for what is written by hand. It is not the generator's once it exists. -/
def container (t : Table) : Decl :=
  { Decl.generated (renderStruct t.extensionName []) (structShape t.extensionName []) with
    managed := false }

/-- The file with the container in it, and the place of the container. -/
def withContainer (t : Table) (f : File) : Except Collision (File × Nat) := do
  match ← locateStruct f t.extensionName with
  | some i => return (f, i)
  | none => return (f.insert f.anchor (container t), f.place f.anchor)

/-- The fields of the struct at a place. -/
def fieldsAt (f : File) (i : Nat) : List String :=
  match f.decls[i]? with
  | some { shape := .struct _ fields, .. } => fields
  | _ => []

/-- The fields of the main struct, where `declared` are those of the container. The container
is embedded last. -/
def mainFields (t : Table) (declared : List String) : Except Collision Fields := do
  let fs ← columnFields (t.columns.filter fun c => !declared.contains (fieldName c.name))
  return fs.add (.embedded t.extensionName) none

/-- Puts the main struct where the old one stands, or behind the container. -/
def placeMain (t : Table) (fields : List Field) (f : File) : Except Collision File := do
  let body := renderStruct t.typeName fields
  let shape := structShape t.typeName fields
  match ← locateStruct f t.typeName with
  | some i => return f.replace i body shape
  | none =>
    let i := match ← locateStruct f t.extensionName with
      | some i => i + 1
      | none => f.anchor
    return f.insert i (.generated body shape)

def mergeTable (t : Table) (f : File) : Except Collision File := do
  let (f, i) ← withContainer t f
  let fs ← mainFields t (fieldsAt f i)
  let f ← placeMain t fs.fields f
  return syncImports f fs.imports

end SchemaGo.Merge
