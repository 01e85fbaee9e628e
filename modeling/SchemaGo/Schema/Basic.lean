import SchemaGo.Naming

/-!
The schema of a database, and the queries that are written against it.
-/

namespace SchemaGo

/-- The type of a column as the schema writes it. -/
structure TypeRef where
  name : String
  isArray : Bool := false
  isNullable : Bool := false
deriving DecidableEq, Repr, Inhabited

structure Column where
  name : String
  type : TypeRef
deriving DecidableEq, Repr, Inhabited

structure Table where
  name : String
  columns : List Column := []
deriving DecidableEq, Repr, Inhabited

structure EnumType where
  name : String
  values : List String := []
deriving DecidableEq, Repr, Inhabited

structure CompositeType where
  name : String
  columns : List Column := []
deriving DecidableEq, Repr, Inhabited

/-- What a query gives back. -/
inductive ResultShape
  | row
  | rows
  | exec
  | execRows
deriving DecidableEq, Repr, Inhabited

structure Parameter where
  name : String
  type : TypeRef
  /-- The number of the placeholder, from one on. -/
  position : Nat
deriving DecidableEq, Repr, Inhabited

structure ResultColumn where
  name : String
  type : TypeRef
  isJsonAggregate : Bool := false
  /-- The table whose rows are aggregated. -/
  elementTable : Option String := none
deriving DecidableEq, Repr, Inhabited

structure Query where
  name : String
  parameters : List Parameter := []
  shape : ResultShape
  columns : List ResultColumn := []
  sql : String
deriving DecidableEq, Repr, Inhabited

structure Schema where
  name : String := "public"
  tables : List Table := []
  enums : List EnumType := []
  composites : List CompositeType := []
  queries : List Query := []
deriving DecidableEq, Repr, Inhabited

namespace Table

def typeName (t : Table) : String := Naming.pascalCase t.name

/-- The struct that holds what is written by hand. -/
def extensionName (t : Table) : String := t.typeName ++ "Extension"

end Table

def EnumType.typeName (e : EnumType) : String := Naming.pascalCase e.name

def CompositeType.typeName (c : CompositeType) : String := Naming.pascalCase c.name

/-- The parameters in the order of their placeholders. -/
def Query.orderedParameters (q : Query) : List Parameter :=
  q.parameters.mergeSort fun a b => a.position ≤ b.position

def Schema.table? (s : Schema) (name : String) : Option Table :=
  s.tables.find? (·.name == name)

end SchemaGo
