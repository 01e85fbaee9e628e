import SchemaGo.Go.Grammar.Reader

/-!
What an operand may be. `a[b]` is an element, a generic type or an instance of a generic
function, and only what follows tells which, so a reading keeps every possibility.
-/

namespace SchemaGo.Go.Grammar

/-- Whether a brace behind an operand opens the elements of a composite literal. -/
inductive Braces
  | never
  /-- Where no block can follow. -/
  | unlessBlock
  | always
deriving DecidableEq, Repr

structure Reading where
  expr : Bool := false
  type : Bool := false
  /-- A union of types, or a single one. -/
  union : Bool := false
  /-- One identifier. -/
  bare : Bool := false
  /-- A type that may take type arguments. -/
  named : Bool := false
  braces : Braces := .never
  /-- An expression with type arguments, to be called. -/
  callee : Bool := false
  /-- A channel type that begins with its keyword. -/
  channel : Bool := false
  /-- `new` or `make`, whose first argument is a type. -/
  allocator : Bool := false
  /-- `x.(type)`, the subject of a type switch. -/
  subject : Bool := false
deriving DecidableEq, Repr

namespace Reading

def nothing : Reading := {}

def value : Reading := { expr := true }

def identifier : Reading :=
  { expr := true, type := true, union := true, bare := true, named := true,
    braces := .unlessBlock }

def qualified : Reading := { identifier with bare := false }

def onlyType : Reading := { type := true, union := true }

/-- A type that is the type of a composite literal whenever a brace follows. -/
def literalType : Reading := { onlyType with braces := .always }

/-- Nothing more is needed: a line break ends it where it may. -/
def tail (r : Reading) (t : Tail) : Tail := if r.expr then t else .closed

end Reading

/-- Operators that may follow an expression besides the binary ones. -/
inductive Follow
  | nothing
  | assignment
  | statement
  | communication
deriving DecidableEq, Repr

def binaryOperators : List String :=
  ["<<", ">>", "&^", "==", "!=", "<=", ">=", "&&", "||", "*", "/", "%", "&", "+", "-", "|", "^",
    "<", ">"]

def assignmentOperators : List String :=
  ["<<=", ">>=", "&^=", "*=", "/=", "%=", "&=", "+=", "-=", "|=", "^=", ":=", "="]

def Follow.operators : Follow → List String
  | nothing => []
  | assignment => assignmentOperators
  | statement => "++" :: "--" :: "<-" :: assignmentOperators
  | communication => [":=", "=", "<-"]

/-- Where an expression stands. -/
structure Setting where
  tail : Tail := .closed
  /-- A brace behind a name belongs to it. -/
  braces : Bool := true
  follow : Follow := .nothing
  /-- The expression may be the subject of a type switch. -/
  subject : Bool := false

/-- The constructs that contain each other. -/
inductive Goal
  | type (tail : Tail)
  | expr (setting : Setting)
  | unary (setting : Setting)
  /-- The braces of a composite literal. -/
  | literal
  /-- The statements of a block or of a case. -/
  | statements (tail : Tail)
  /-- A statement; behind a label it is not optional. -/
  | statement (tail : Tail) (labelled : Bool)

/-- How constructs within the one at hand are read. -/
abbrev Inner := Goal → Reader Reading

end SchemaGo.Go.Grammar
