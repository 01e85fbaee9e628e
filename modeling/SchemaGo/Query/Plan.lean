import SchemaGo.Schema.Basic

/-!
What the function of a query gives back, and which type holds its rows.
-/

namespace SchemaGo

/-- What a function gives back beside the error, where `α` says what is known of a row. -/
inductive Returns (α : Type)
  | one (row : α)
  | many (row : α)
  | errorOnly
  | affectedRows
deriving DecidableEq, Repr

namespace Returns

def row? : Returns α → Option α
  | one r | many r => some r
  | errorOnly | affectedRows => none

def map (f : α → β) : Returns α → Returns β
  | one r => one (f r)
  | many r => many (f r)
  | errorOnly => errorOnly
  | affectedRows => affectedRows

end Returns

inductive RowBinding
  /-- The rows have the type of a table. -/
  | table (table : Table)
  /-- The rows have a type of their own. -/
  | synthesized
deriving DecidableEq, Repr

/-- Whether the two lists have the same members. -/
def sameNames (xs ys : List String) : Bool := xs.all ys.contains && ys.all xs.contains

/-- The first table that has the columns of the query, whatever their order and number. A JSON
aggregate is no column of a table. -/
def Query.reusable? (q : Query) (tables : List Table) : Option Table :=
  if q.columns.any (·.isJsonAggregate) || q.columns.isEmpty then none
  else tables.find? fun t => sameNames (t.columns.map (·.name)) (q.columns.map (·.name))

def Query.binding (q : Query) (tables : List Table) : RowBinding :=
  (q.reusable? tables).elim .synthesized .table

def Query.plan (q : Query) (tables : List Table) : Returns RowBinding :=
  match q.shape with
  | .row => .one (q.binding tables)
  | .rows => .many (q.binding tables)
  | .exec => .errorOnly
  | .execRows => .affectedRows

end SchemaGo
