import SchemaGo.Go.Grammar.Type

/-!
Expressions, read together with the types that may stand in their place. Precedence is left
out, for it decides the tree of an expression but not whether there is one.
-/

namespace SchemaGo.Go.Grammar

open Reader

variable (inner : Inner)

/-! ### Operands -/

def block : Reader Unit := do
  mark "\x7b"
  discard (inner (.statements .line))
  mark "\x7d"

/-- A function literal or a function type, behind the keyword. -/
def functionOperand : Reader Reading := do
  parameters inner
  results inner .closed
  if ← sees .closed "\x7b" then
    block inner
    return .value
  else return .onlyType

/-- An operand that begins with a bracket, behind the bracket. -/
def bracketOperand : Reader Reading := do
  if ← takes .closed "]" then
    type inner .closed
    return .literalType
  if ← takes .closed "..." then
    mark "]"
    type inner .closed
    return { braces := .always }
  expression inner {}
  mark "]"
  type inner .closed
  return .literalType

def operand : Reader Reading := do
  match ← advance with
  | .word "func" => functionOperand inner
  | .word "struct" => discard (fields inner); return .literalType
  | .word "interface" => interfaceBody inner; return .onlyType
  | .word "map" => mapRest inner .closed; return .literalType
  | .word "chan" => channelRest inner .closed; return { Reading.onlyType with channel := true }
  | .word w =>
    if w == "new" || w == "make" then return { Reading.value with allocator := true }
    if ["nil", "true", "false", "iota"].contains w then return .value
    return .identifier
  | .number _ | .string _ | .rune _ => return .value
  | .mark '(' =>
    let r ← inner (.expr {})
    check (r.expr || r.type)
    mark ")"
    return { expr := r.expr, type := r.type, union := r.type }
  | .mark '[' => bracketOperand inner
  | .mark '~' =>
    type inner .closed
    return { Reading.onlyType with named := true, braces := .unlessBlock }
  | _ => failure

/-! ### What may follow an operand -/

/-- Arguments of a call, behind the parenthesis. -/
def arguments : Reader Unit :=
  discard <| commaList ")" do
    expression inner {}
    discard (takes .closed "...")

/-- Arguments of `new` and `make`: a type, then expressions. -/
def allocation : Reader Unit := do
  unless ← takes .closed ")" do
    type inner .closed
    if ← takes .closed "," then discard (commaList ")" (expression inner {}))
    else mark ")"

/-- The operand of a conversion. -/
def conversion : Reader Unit := do
  expression inner {}
  discard (takes .closed ",")
  mark ")"

def call (r : Reading) : Reader Reading := do
  if r.allocator then allocation inner
  else if r.expr || r.callee then arguments inner
  else
    check r.type
    conversion inner
  return .value

/-- A slice expression, behind its first colon. -/
def sliceRest : Reader Reading := do
  unless ← takes .closed "]" do
    expression inner {}
    if ← takes .closed ":" then expression inner {}
    mark "]"
  return .value

/-- Types between brackets behind `r`, where `first` has been read: `first` alone may be an
index too. -/
def instantiation (r first : Reading) : Reader Reading := do
  let (others, comma) ←
    if ← takes .closed "," then do
      let (others, _) ← commaList "]" (inner (.expr {}))
      pure (others, true)
    else do
      mark "]"
      pure ([], false)
  let args := first :: others
  let unions := args.all (·.union)
  let index := r.expr && !comma && first.expr
  let generic := r.named && unions
  let result : Reading :=
    { expr := index || (r.type && args.all (·.type))
      type := generic
      union := generic
      braces := if generic then .unlessBlock else .never
      callee := r.expr && unions }
  check (result.expr || result.type || result.callee)
  return result

/-- Brackets behind the operand `r`, behind the first of them. -/
def bracketed (r : Reading) : Reader Reading := do
  if ← takes .closed ":" then
    check r.expr
    sliceRest inner
  else
    let first ← inner (.expr {})
    if ← takes .closed ":" then
      check (r.expr && first.expr)
      sliceRest inner
    else instantiation inner r first

/-- What follows a point behind the operand `r`. -/
def selection (s : Setting) (r : Reading) : Reader Reading := do
  check r.expr
  if ← takes .closed "(" then
    if s.subject then
      if ← takesWord .closed "type" then
        mark ")"
        return { subject := true }
    type inner .closed
    mark ")"
    return .value
  discard word
  return if r.bare then .qualified else .value

/-- One step behind the operand `r`, if there is one. -/
def postfixStep (s : Setting) (r : Reading) : Reader (Option Reading) := do
  if r.subject then return none
  match ← peek (r.tail s.tail) with
  | some (.mark '.') =>
    if ← sees .closed "..." then return none
    mark "."
    selection inner s r
  | some (.mark '(') => mark "("; call inner r
  | some (.mark '[') => mark "["; bracketed inner r
  | some (.mark '{') =>
    if r.braces = .always ∨ (r.braces = .unlessBlock ∧ s.braces) then
      mark "\x7b"
      discard (inner .literal)
      return some .value
    else return none
  | _ => return none

def postfixUpTo (s : Setting) : Nat → Reading → Reader Reading
  | 0, r => pure r
  | n + 1, r => do
    match ← postfixStep inner s r with
    | some r => postfixUpTo s n r
    | none => return r

/-! ### Operators -/

def unaryOperators : List String := ["<-", "+", "-", "!", "^", "*", "&"]

def unary (s : Setting) : Reader Reading := do
  match ← operator .closed unaryOperators with
  | some op =>
    mark op
    let r ← inner (.unary { s with subject := false })
    match op with
    | "*" => return { expr := r.expr, type := r.type, union := r.type }
    | "<-" => return { expr := r.expr, type := r.channel, union := r.channel }
    | _ => return { expr := r.expr }
  | none =>
    let r ← operand inner
    fun ts => postfixUpTo inner s ts.length r ts

def binaryStep (s : Setting) (r : Reading) : Reader (Option Reading) := do
  if r.subject then return none
  match ← operator (r.tail s.tail) (binaryOperators ++ s.follow.operators) with
  | some op =>
    if binaryOperators.contains op then
      mark op
      let operand ← unary inner { s with subject := false }
      return some
        { expr := r.expr && operand.expr
          union := r.union && op == "|" && operand.type }
    else return none
  | none => return none

def binaryUpTo (s : Setting) : Nat → Reading → Reader Reading
  | 0, r => pure r
  | n + 1, r => do
    match ← binaryStep inner s r with
    | some r => binaryUpTo s n r
    | none => return r

/-- An expression or a type, whichever the context takes. -/
def exprOrType (s : Setting) : Reader Reading := do
  let r ← unary inner s
  fun ts => binaryUpTo inner s ts.length r ts

/-! ### Composite literals -/

def element : Reader Unit := do
  if ← takes .closed "\x7b" then discard (inner .literal) else expression inner {}

def keyedElement : Reader Unit := do
  element inner
  if ← takes .closed ":" then element inner

/-- The elements of a composite literal, behind the brace. -/
def literalElements : Reader Unit := looseList "\x7d" (keyedElement inner)

end SchemaGo.Go.Grammar
