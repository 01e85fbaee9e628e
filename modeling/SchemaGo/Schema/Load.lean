import SchemaGo.Json.Decode
import SchemaGo.Schema.Validate

/-!
Reading a schema from its JSON form.
-/

namespace SchemaGo

open Json

/-! ### Fields -/

/-- A field that must be given; `get` finds it in the record so far. -/
def requiredField (name : String) (d : Decoder α) (get : σ → Option α) (set : σ → α → σ) :
    RecordField σ :=
  { name, given := fun s => (get s).isSome, required := true, read := fun s => set s <$> d }

def optionalField (name : String) (d : Decoder α) (get : σ → Option α) (set : σ → α → σ) :
    RecordField σ :=
  { requiredField name d get set with required := false }

/-! ### Records -/

/-- The fields of a type that have been read. -/
structure TypeRefParts where
  name : Option String := none
  isArray : Option Bool := none
  isNullable : Option Bool := none

def typeRefForm : Record TypeRefParts TypeRef where
  name := "TypeDescriptor"
  fields :=
    [ requiredField "name" string (·.name) fun s x => { s with name := x },
      optionalField "is_array" bool (·.isArray) fun s x => { s with isArray := x },
      optionalField "is_nullable" bool (·.isNullable) fun s x => { s with isNullable := x } ]
  start := {}
  build s := ⟨s.name.getD "", s.isArray.getD false, s.isNullable.getD false⟩

/-- The fields of a column that have been read. -/
structure ColumnParts where
  name : Option String := none
  type : Option TypeRef := none

def columnForm : Record ColumnParts Column where
  name := "Column"
  fields :=
    [ requiredField "name" string (·.name) fun s x => { s with name := x },
      requiredField "type" typeRefForm.decoder (·.type) fun s x => { s with type := x } ]
  start := {}
  build s := ⟨s.name.getD "", s.type.getD default⟩

/-- The fields of a table or a composite type that have been read. -/
structure ColumnsParts where
  name : Option String := none
  columns : Option (List Column) := none

def columnsForm (name : String) (build : String → List Column → α) : Record ColumnsParts α where
  name := name
  fields :=
    [ requiredField "name" string (·.name) fun s x => { s with name := x },
      optionalField "columns" (list columnForm.decoder) (·.columns)
        fun s x => { s with columns := x } ]
  start := {}
  build s := build (s.name.getD "") (s.columns.getD [])

def tableForm : Record ColumnsParts Table := columnsForm "Table" Table.mk

def compositeForm : Record ColumnsParts CompositeType :=
  columnsForm "CompositeType" CompositeType.mk

/-- The fields of an enum that have been read. -/
structure EnumParts where
  name : Option String := none
  values : Option (List String) := none

def enumForm : Record EnumParts EnumType where
  name := "EnumType"
  fields :=
    [ requiredField "name" string (·.name) fun s x => { s with name := x },
      optionalField "values" (list string) (·.values) fun s x => { s with values := x } ]
  start := {}
  build s := ⟨s.name.getD "", s.values.getD []⟩

/-- The fields of a parameter that have been read. -/
structure ParameterParts where
  name : Option String := none
  type : Option TypeRef := none
  position : Option Nat := none

def parameterForm : Record ParameterParts Parameter where
  name := "QueryParameter"
  fields :=
    [ requiredField "name" string (·.name) fun s x => { s with name := x },
      requiredField "type" typeRefForm.decoder (·.type) fun s x => { s with type := x },
      requiredField "position" nat (·.position) fun s x => { s with position := x } ]
  start := {}
  build s := ⟨s.name.getD "", s.type.getD default, s.position.getD 0⟩

/-- The fields of a result column that have been read. -/
structure ResultColumnParts where
  name : Option String := none
  type : Option TypeRef := none
  isJsonAggregate : Option Bool := none
  elementTable : Option (Option String) := none

def resultColumnForm : Record ResultColumnParts ResultColumn where
  name := "QueryColumn"
  fields :=
    [ requiredField "name" string (·.name) fun s x => { s with name := x },
      requiredField "type" typeRefForm.decoder (·.type) fun s x => { s with type := x },
      optionalField "is_json_aggregate" bool (·.isJsonAggregate)
        fun s x => { s with isJsonAggregate := x },
      optionalField "json_element_table" (nullable string) (·.elementTable)
        fun s x => { s with elementTable := some x } ]
  start := {}
  build s :=
    ⟨s.name.getD "", s.type.getD default, s.isJsonAggregate.getD false, s.elementTable.getD none⟩

def shapeNames : List (String × ResultShape) :=
  [("row", .row), ("rows", .rows), ("exec", .exec), ("exec_rows", .execRows)]

/-- The fields of a query that have been read. -/
structure QueryParts where
  name : Option String := none
  parameters : Option (List Parameter) := none
  shape : Option ResultShape := none
  columns : Option (List ResultColumn) := none
  sql : Option String := none

def queryForm : Record QueryParts Query where
  name := "Query"
  fields :=
    [ requiredField "name" string (·.name) fun s x => { s with name := x },
      optionalField "parameters" (list parameterForm.decoder) (·.parameters)
        fun s x => { s with parameters := x },
      requiredField "shape" (choice shapeNames) (·.shape) fun s x => { s with shape := x },
      optionalField "columns" (list resultColumnForm.decoder) (·.columns)
        fun s x => { s with columns := x },
      requiredField "sql" string (·.sql) fun s x => { s with sql := x } ]
  start := {}
  build s :=
    ⟨s.name.getD "", s.parameters.getD [], s.shape.getD default, s.columns.getD [],
      s.sql.getD ""⟩

/-- The fields of a schema that have been read. -/
structure SchemaParts where
  name : Option String := none
  tables : Option (List Table) := none
  enums : Option (List EnumType) := none
  composites : Option (List CompositeType) := none
  queries : Option (List Query) := none

def schemaForm : Record SchemaParts Schema where
  name := "Schema"
  fields :=
    [ optionalField "name" string (·.name) fun s x => { s with name := x },
      optionalField "tables" (list tableForm.decoder) (·.tables)
        fun s x => { s with tables := x },
      optionalField "enums" (list enumForm.decoder) (·.enums) fun s x => { s with enums := x },
      optionalField "composites" (list compositeForm.decoder) (·.composites)
        fun s x => { s with composites := x },
      optionalField "queries" (list queryForm.decoder) (·.queries)
        fun s x => { s with queries := x } ]
  start := {}
  build s :=
    ⟨s.name.getD "public", s.tables.getD [], s.enums.getD [], s.composites.getD [],
      s.queries.getD []⟩

/-! ### Schemas -/

inductive LoadError
  | json (fault : Fault)
  | query (fault : QueryFault)
deriving DecidableEq, Repr

def LoadError.message : LoadError → String
  | json f => f.message
  | query f => f.message

def Schema.ofJson (text : String) : Except LoadError Schema :=
  match decode schemaForm.decoder text with
  | .error f => .error (.json f)
  | .ok s =>
    match s.fault? with
    | some f => .error (.query f)
    | none => .ok s

end SchemaGo
