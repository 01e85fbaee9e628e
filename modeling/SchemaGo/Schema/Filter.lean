import SchemaGo.Schema.Basic

/-!
Which tables of a schema are taken.
-/

namespace SchemaGo

structure TableFilter where
  /-- If given, no other tables are taken. -/
  included : Option (List String) := none
  excluded : List String := []
  /-- The table in which migrations are recorded is never taken. -/
  bookkeeping : Option String := none
deriving DecidableEq, Repr, Inhabited

def TableFilter.admits (f : TableFilter) (table : String) : Bool :=
  f.bookkeeping != some table && f.included.all (·.contains table) && !f.excluded.contains table

def Schema.filter (s : Schema) (f : TableFilter) : Schema :=
  { s with tables := s.tables.filter (f.admits ·.name) }

end SchemaGo
