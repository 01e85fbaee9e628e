import SchemaGo.Go.File.Read
import SchemaGo.Merge.Composite
import SchemaGo.Merge.Enum
import SchemaGo.Merge.Table

/-!
Merging an item of the schema into the text of its model file, which may not exist yet.
-/

namespace SchemaGo.Merge

open Go

inductive MergeError
  | read (error : ReadError)
  | collision (collision : Collision)
deriving DecidableEq, Repr

def MergeError.message : MergeError → String
  | read e => e.message
  | collision c => c.message

/-- An item of the schema that has a model file. -/
inductive Model
  | table (table : Table)
  | enum (enum : EnumType)
  | composite (composite : CompositeType)
deriving DecidableEq, Repr

namespace Model

def name : Model → String
  | table t => t.name
  | enum e => e.name
  | composite c => c.name

/-- Merges the item into a file. -/
def merge : Model → File → Except Collision File
  | table t => mergeTable t
  | enum e => mergeEnum e
  | composite c => mergeComposite c

end Model

/-- The file that there is, or an empty one. -/
def current (existing : Option String) (package : String) : Except MergeError File :=
  match existing with
  | none => .ok (.empty package)
  | some source => (File.read source).mapError .read

/-- The new text of a model file. -/
def mergeSource (m : Model) (existing : Option String) (package : String) :
    Except MergeError String := do
  let f ← current existing package
  let f ← (m.merge f).mapError .collision
  return f.print

end SchemaGo.Merge
