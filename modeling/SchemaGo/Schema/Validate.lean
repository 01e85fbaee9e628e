import SchemaGo.Schema.Basic

/-!
What a schema must satisfy beyond its form: every JSON aggregate names the table of its
elements, and the positions of the parameters of a query are distinct and count from one.
-/

namespace SchemaGo

/-- The first fault of a query. -/
inductive QueryFault
  | aggregateWithoutTable (query column : String)
  | badPosition (query parameter : String) (position : Nat)
deriving DecidableEq, Repr

def QueryFault.message : QueryFault → String
  | aggregateWithoutTable q c =>
    "query '" ++ q ++ "': JSON aggregate column '" ++ c ++ "' has no element table"
  | badPosition q p n =>
    "query '" ++ q ++ "': parameter '" ++ p ++ "' has invalid position " ++ n.repr

/-- The first parameter whose position is zero or one of those `seen`. -/
def misplaced? (seen : List Nat) : List Parameter → Option Parameter
  | [] => none
  | p :: ps =>
    if p.position = 0 || seen.contains p.position then some p
    else misplaced? (p.position :: seen) ps

def Query.fault? (q : Query) : Option QueryFault :=
  match q.columns.find? fun c => c.isJsonAggregate && c.elementTable.isNone with
  | some c => some (.aggregateWithoutTable q.name c.name)
  | none =>
    (misplaced? [] q.parameters).map fun p => .badPosition q.name p.name p.position

def Schema.fault? (s : Schema) : Option QueryFault := s.queries.findSome? Query.fault?

end SchemaGo
