import SchemaGo.Run.Artifact

/-!
What has become of each file in a run.
-/

namespace SchemaGo

structure Outcome where
  label : String
  path : String
  result : Except Failure Status
deriving Repr

abbrev Report := List Outcome

/-- The number of files of each status. -/
structure Summary where
  created : Nat
  updated : Nat
  unchanged : Nat
  stale : Nat
  failed : Nat
deriving DecidableEq, Repr

namespace Outcome

def status? (o : Outcome) : Option Status := o.result.toOption

def failed (o : Outcome) : Bool := o.status?.isNone

end Outcome

namespace Report

/-- The number of files of a status. -/
def tally (r : Report) (s : Status) : Nat := r.countP (·.status? == some s)

def summary (r : Report) : Summary where
  created := tally r .created
  updated := tally r .updated
  unchanged := tally r .unchanged
  stale := tally r .stale
  failed := r.countP (·.failed)

/-- Whether a file could not be made, or is out of date. -/
def isFailure (r : Report) : Bool := (summary r).failed > 0 || (summary r).stale > 0

end Report

end SchemaGo
