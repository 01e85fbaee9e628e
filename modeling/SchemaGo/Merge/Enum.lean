import SchemaGo.Merge.Basic

/-!
The model file of an enum: a string type, and a block with a constant for each value.
-/

namespace SchemaGo.Merge

open Go

/-! ### Members -/

/-- The constant of the value at place `i`. A value without letters and digits is numbered. -/
def memberName (type : String) (i : Nat) (value : String) : String :=
  let suffix := Naming.pascalCase value
  type ++ (if suffix.isEmpty then "Value" ++ i.repr else suffix)

/-- The constants of the values from place `i` on, where the names `seen` are taken. -/
def membersFrom (type : String) (i : Nat) (seen : List String) :
    List String → Except Collision (List Member)
  | [] => .ok []
  | v :: vs => do
    let name := memberName type i v
    if seen.contains name then .error ⟨name, .member⟩
    else return ⟨name, v⟩ :: (← membersFrom type (i + 1) (name :: seen) vs)

/-- The constants of an enum, in the order of its values. -/
def enumMembers (type : String) (values : List String) : Except Collision (List Member) :=
  membersFrom type 0 [] values

/-! ### Places -/

def locateEnumType (f : File) (name : String) : Except Collision (Option Nat) :=
  match f.find? name with
  | none => .ok none
  | some (i, d) =>
    match d.shape with
    | .named n u => if u = "string" then .ok (some i) else .error ⟨name, .declaration (.named n u)⟩
    | s => .error ⟨name, .declaration s⟩

/-- Whether `shape` is the block of the enum: its first constant has the enum as type, and the
names of all begin with that of the enum. -/
def isEnumBlock (type : String) (shape : Shape) : Bool :=
  match shape with
  | .consts specs =>
    specs.head?.bind (·.type) == some type &&
      (specs.flatMap (·.names)).all fun n => type.toList.isPrefixOf n.toList
  | _ => false

def locateEnumBlock (f : File) (type : String) : Option Nat :=
  f.decls.findIdx? fun d => isEnumBlock type d.shape

/-- Refuses members that are declared elsewhere than in the block. -/
def checkMembers (f : File) (block : Option Nat) : List Member → Except Collision Unit
  | [] => .ok ()
  | m :: ms =>
    match f.find? m.name with
    | some (i, d) =>
      if block = some i then checkMembers f block ms
      else .error ⟨m.name, .declaration d.shape⟩
    | none => checkMembers f block ms

/-! ### Merging -/

def enumTypeDecl (type : String) : Decl :=
  .generated ("type " ++ type ++ " string") (.named type "string")

/-- The file with the type of the enum in it, and the place of the type, where it has been
looked for. A new type goes in front of a block that is there already. -/
def withEnumType (type : String) (located : Option Nat) (f : File) : File × Nat :=
  match located with
  | some i => (f, i)
  | none =>
    let i := (locateEnumBlock f type).getD f.anchor
    (f.insert i (enumTypeDecl type), f.place i)

/-- Puts the block where the old one stands, or behind the type. An enum without values has no
block. -/
def placeBlock (type : String) (members : List Member) (typeIndex : Nat) (f : File) : File :=
  match locateEnumBlock f type with
  | some i =>
    if members.isEmpty then f.remove i
    else f.replace i (renderConsts type members) (constsShape type members)
  | none =>
    if members.isEmpty then f
    else
      f.insert (typeIndex + 1) (.generated (renderConsts type members) (constsShape type members))

def mergeEnum (e : EnumType) (f : File) : Except Collision File := do
  let type := e.typeName
  let members ← enumMembers type e.values
  let located ← locateEnumType f type
  checkMembers f (locateEnumBlock f type) members
  let (f, i) := withEnumType type located f
  return syncImports (placeBlock type members i (f.setManaged i true)) []

end SchemaGo.Merge
