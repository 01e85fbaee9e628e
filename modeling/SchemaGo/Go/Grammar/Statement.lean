import SchemaGo.Go.Grammar.Decl

/-!
Statements. The words that begin a statement are keywords there and plain names elsewhere.
-/

namespace SchemaGo.Go.Grammar

open Reader

variable (inner : Inner)

/-! ### Simple statements -/

/-- Where a simple statement stands. -/
inductive Place
  | body (tail : Tail)
  /-- First in the head of an `if` statement. -/
  | condition
  /-- First in the head of a `switch` statement. -/
  | choice
  /-- First in the head of a `for` statement. -/
  | loop
  /-- Last in the head of a `for` statement. -/
  | step
deriving DecidableEq

namespace Place

def tail : Place → Tail
  | body t => t
  | _ => .closed

/-- The first expression, which a block may follow unless the statement stands in a body. -/
def left (p : Place) : Setting :=
  { tail := p.tail
    braces := p matches .body _
    follow := .statement
    subject := p = .choice }

/-- What is assigned. -/
def right (p : Place) : Setting := { tail := p.tail, braces := p ≠ .step }

end Place

inductive Simple
  /-- An expression; a bare identifier may be a label. -/
  | expr (bare : Bool)
  | effect
  /-- The subject of a type switch. -/
  | subject
  | range

/-- What is ranged over, if `range` comes next in the head of a loop. -/
def range? (p : Place) : Reader Bool := do
  if p = .loop then
    if ← takesWord .closed "range" then
      expression inner { braces := false }
      return true
  return false

/-- What follows an assignment operator. -/
def assigned (p : Place) (op : String) : Reader Simple := do
  if op == "=" || op == ":=" then
    if ← range? inner p then return .range
  let r ← exprOrType inner { p.right with subject := p = .choice && op == ":=" }
  if r.subject then return .subject
  check r.expr
  if ← takes p.tail "," then expressions inner p.right
  return .effect

def simple (p : Place) : Reader Simple := do
  if ← range? inner p then return .range
  let r ← exprOrType inner p.left
  if r.subject then return .subject
  check r.expr
  match ← operator p.tail ("," :: Follow.statement.operators) with
  | none => return .expr r.bare
  | some "++" => mark "++"; return .effect
  | some "--" => mark "--"; return .effect
  | some "<-" =>
    mark "<-"
    expression inner p.right
    return .effect
  | some "," =>
    mark ","
    expressions inner { follow := .assignment }
    match ← operator .closed assignmentOperators with
    | some op => mark op; assigned inner p op
    | none => failure
  | some op => mark op; assigned inner p op

/-- The condition that a head comes to, where `s` has been read of it. -/
def condition (s : Simple) : Reader Unit := do
  if ← takes .closed ";" then expression inner { braces := false }
  else check (s matches .expr _)

/-! ### Statements that contain blocks -/

def ifRest (tail : Tail) : Reader Unit := do
  condition inner (← simple inner .condition)
  block inner
  if ← takesWord tail "else" then
    if ← sees .closed "\x7b" then block inner
    else
      check (← seesWord .closed "if")
      discard (inner (.statement tail true))

/-- The condition and the step of a loop, behind the first semicolon. -/
def loopHead : Reader Unit := do
  unless ← takes .closed ";" do
    expression inner {}
    mark ";"
  unless ← sees .closed "\x7b" do
    check !((← simple inner .step) matches .subject)

def forRest : Reader Unit := do
  if ← takes .closed ";" then loopHead inner
  else
    unless ← sees .closed "\x7b" do
      match ← simple inner .loop with
      | .range => pure ()
      | .expr _ => if ← takes .closed ";" then loopHead inner
      | _ =>
        mark ";"
        loopHead inner
  block inner

/-- The clauses of a statement with cases, where `choice` reads what follows `case`. -/
def clauses (choice : Reader Unit) : Reader Unit := do
  mark "\x7b"
  discard <| many do
    if ← sees .closed "\x7d" then return none
    if ← takesWord .closed "case" then choice
    else check (← takesWord .closed "default")
    mark ":"
    discard (inner (.statements .clause))
    return some ()
  mark "\x7d"

/-- The head of a switch, and whether it is a type switch. -/
def switchHead : Reader Bool := do
  if ← sees .closed "\x7b" then return false
  match ← simple inner .choice with
  | .subject => return true
  | s =>
    if ← takes .closed ";" then
      if ← sees .closed "\x7b" then return false
      match ← simple inner .choice with
      | .subject => return true
      | .expr _ => return false
      | _ => failure
    else
      check (s matches .expr _)
      return false

def switchRest : Reader Unit := do
  if ← switchHead inner then
    clauses inner (discard (sepList .closed "," (type inner .closed)))
  else clauses inner (expressions inner {})

/-- A message sent or received. -/
def communication : Reader Unit := do
  expression inner { follow := .communication }
  if ← takes .closed "<-" then expression inner {}
  else
    if ← sees .closed "," then
      mark ","
      expressions inner { follow := .assignment }
      check ((← sees .closed "=") || (← sees .closed ":="))
    match ← operator .closed [":=", "="] with
    | some op =>
      mark op
      expression inner {}
    | none => pure ()

/-! ### Statements -/

/-- Whether a list of statements ends here. -/
def seesEnd (tail : Tail) : Reader Bool := do
  match ← peek .closed with
  | some (.word w) => return tail = .clause && isCaseWord w
  | some (.mark '}') | none => return true
  | _ => return false

/-- Whether a complete statement ends here. -/
def seesStop (tail : Tail) : Reader Bool := do
  match ← peek tail with
  | some (.mark c) => return [';', '}', '\x00'].contains c
  | some _ => return false
  | none => return true

def label? (tail : Tail) : Reader Unit := do
  match ← peek tail with
  | some (.word _) => discard word
  | _ => pure ()

/-- A simple statement or a labelled one. -/
def simpleOrLabelled (tail : Tail) (labelled : Bool) : Reader Unit := do
  match ← simple inner (.body tail) with
  | .expr true =>
    if ← takes tail ":" then
      if ← seesEnd tail then check !labelled
      else discard (inner (.statement tail true))
  | .expr false | .effect => pure ()
  | _ => failure

def statementAt (tail : Tail) (labelled : Bool) : Reader Unit := do
  match ← peek .closed with
  | some (.mark '{') => block inner
  | some (.mark ';') => mark ";"
  | some (.word w) =>
    if declarationKeywords.contains w then discard (declaration inner tail)
    else
      match w with
      | "return" =>
        discard word
        unless ← seesStop tail do expressions inner { tail := tail }
      | "go" | "defer" => discard word; expression inner { tail := tail }
      | "if" => discard word; ifRest inner tail
      | "for" => discard word; forRest inner
      | "switch" => discard word; switchRest inner
      | "select" => discard word; clauses inner (communication inner)
      | "break" | "continue" => discard word; label? tail
      | "goto" => discard word; discard word
      | "fallthrough" => discard word
      | _ => simpleOrLabelled inner tail labelled
  | _ => simpleOrLabelled inner tail labelled

/-- Statements up to the end of a block or a case. -/
def statementsAt (tail : Tail) : Reader Unit := do
  let terminated ← many do
    if ← seesEnd tail then return none
    statementAt inner tail false
    return some (← terminator?)
  check (terminated.dropLast.all id)

/-! ### All constructs -/

/-- One level of the grammar, over the constructs within. -/
def level (inner : Inner) : Goal → Reader Reading
  | .type tail => do typeAt inner tail; return .onlyType
  | .expr s => exprOrType inner s
  | .unary s => unary inner s
  | .literal => do literalElements inner; return .nothing
  | .statements tail => do statementsAt inner tail; return .nothing
  | .statement tail labelled => do statementAt inner tail labelled; return .nothing

/-- The grammar, for constructs nested at most `n` deep. -/
def upTo : Nat → Inner
  | 0 => fun _ => failure
  | n + 1 => level (upTo n)

end SchemaGo.Go.Grammar
