import SchemaGo.Merge.Basic

/-!
The model file of a composite type: one struct, generated anew.
-/

namespace SchemaGo.Merge

open Go

def mergeComposite (c : CompositeType) (f : File) : Except Collision File := do
  let fs ← columnFields c.columns
  let body := renderStruct c.typeName fs.fields
  let shape := structShape c.typeName fs.fields
  let f ← match ← locateStruct f c.typeName with
    | some i => pure (f.replace i body shape)
    | none => pure (f.insert f.anchor (.generated body shape))
  return syncImports f fs.imports

end SchemaGo.Merge
