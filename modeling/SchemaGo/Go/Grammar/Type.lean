import SchemaGo.Go.Grammar.Reading
import SchemaGo.Go.Shape

/-!
Types, parameter lists and the bodies of structs and interfaces.
-/

namespace SchemaGo.Go.Grammar

open Reader

def typeKeywords : List String := ["func", "struct", "map", "chan", "interface"]

/-- Whether a type begins with the next lexeme. -/
def seesType (tail : Tail) : Reader Bool := do
  match ← peek tail with
  | some (.word _) => return true
  | some (.mark '*') | some (.mark '(') | some (.mark '[') | some (.mark '~') => return true
  | _ => sees tail "<-"

variable (inner : Inner)

def type (tail : Tail) : Reader Unit := discard (inner (.type tail))

def expression (s : Setting) : Reader Unit := do check (← inner (.expr s)).expr

/-- The union of types that a constraint or an element of an interface is. -/
def union (tail : Tail) (first : Reader Unit) : Reader Unit := do
  first
  discard <| many do
    if ← takes tail "|" then type inner tail; return some () else return none

/-- Type arguments, behind their opening bracket. -/
def typeArguments : Reader Unit := do
  let (args, _) ← commaList "]" (union inner .closed (type inner .closed))
  check (!args.isEmpty)

/-- What stands between brackets behind a name: the types of a generic type, or the length of
an array type. -/
inductive Brackets
  | empty
  | arguments
  | length
  | either
deriving DecidableEq

/-- Brackets behind a name, from the first one on. -/
def brackets : Reader Brackets := do
  mark "["
  let (items, comma) ← commaList "]" (inner (.expr {}))
  let types := items.all (·.union)
  match items with
  | [] => check (!comma); return .empty
  | [r] =>
    if r.expr && !comma then return if types then .either else .length
    else check types; return .arguments
  | _ => check types; return .arguments

/-- Where a name with brackets behind it may be a name and an array type, or a generic type:
the rest of it. The answer tells whether it was a name. -/
def nameOrGeneric (tail : Tail) : Reader Bool := do
  let b ← brackets inner
  if b = .empty then type inner tail; return true
  if ← seesType (if b = .length then .closed else tail) then
    check (b != .arguments)
    type inner tail
    return true
  check (b != .length)
  return false

/-- What may follow a type name. -/
def typeNameRest (tail : Tail) : Reader Unit := do
  if (← sees tail ".") && !(← sees tail "...") then
    mark "."
    discard word
  if ← takes tail "[" then typeArguments inner

def parameter : Reader Unit := do
  if ← takes .closed "..." then type inner .closed
  else
    match ← peek .closed with
    | some (.word w) =>
      if typeKeywords.contains w then type inner .closed
      else
        discard word
        if ← takes .closed "..." then type inner .closed
        else if ← sees .closed "." then typeNameRest inner .closed
        else if ← sees .closed "[" then discard (nameOrGeneric inner .closed)
        else if ← seesType .closed then type inner .closed
    | _ => type inner .closed

def parameters : Reader Unit := do
  mark "("
  looseList ")" (parameter inner)

/-- The results of a function, if there are any. -/
def results (tail : Tail) : Reader Unit := do
  if ← sees tail "(" then parameters inner
  else if ← seesType tail then type inner tail

/-- The names of one line of a struct, as its fields are addressed. -/
def field : Reader (List String) := do
  let names ←
    if ← takes .closed "*" then embedded (do discard word; typeNameRest inner .line)
    else
      let start ← get
      let name ← word
      if ← takes .line "," then
        let names ← sepList .closed "," word
        type inner .line
        pure (name :: names)
      else if ← sees .line "[" then
        if ← nameOrGeneric inner .line then pure [name]
        else set start; embedded (do discard word; discard (brackets inner))
      else if ← sees .line "." then
        set start
        embedded (do discard word; typeNameRest inner .line)
      else if ← seesType .line then
        type inner .line
        pure [name]
      else pure [name]
  match ← peek .line with
  | some (.string _) => discard advance
  | _ => pure ()
  return names
where
  embedded (r : Reader Unit) : Reader (List String) := do
    let (_, text) ← spelled r
    return [embeddedName text]

/-- The body of a struct type. -/
def fields : Reader (List String) := do
  mark "\x7b"
  return (← lines "\x7d" (field inner)).flatten

def interfaceElement : Reader Unit := do
  match ← peek .closed with
  | some (.word w) =>
    if typeKeywords.contains w then union inner .line (type inner .line)
    else
      discard word
      if ← sees .line "(" then
        parameters inner
        results inner .line
      else union inner .line (typeNameRest inner .line)
  | _ => union inner .line (type inner .line)

def interfaceBody : Reader Unit := do
  mark "\x7b"
  discard (lines "\x7d" (interfaceElement inner))

/-- What follows the keyword of a map type. -/
def mapRest (tail : Tail) : Reader Unit := do
  mark "["
  type inner .closed
  mark "]"
  type inner tail

/-- What follows the keyword of a channel type. -/
def channelRest (tail : Tail) : Reader Unit := do
  discard (takes .closed "<-")
  type inner tail

/-- A type where only a type can stand. -/
def typeAt (tail : Tail) : Reader Unit := do
  match ← advance with
  | .word "func" => parameters inner; results inner tail
  | .word "struct" => discard (fields inner)
  | .word "interface" => interfaceBody inner
  | .word "map" => mapRest inner tail
  | .word "chan" => channelRest inner tail
  | .word _ => typeNameRest inner tail
  | .mark '*' | .mark '~' => type inner tail
  | .mark '(' => type inner .closed; mark ")"
  | .mark '[' =>
    if ← takes .closed "]" then type inner tail
    else
      expression inner {}
      mark "]"
      type inner tail
  | .mark '<' =>
    -- the arrow of a channel that is only received from
    match ← get with
    | .mark '-' :: rest =>
      set rest
      check (← takesWord .closed "chan")
      type inner tail
    | _ => failure
  | _ => failure

end SchemaGo.Go.Grammar
