import SchemaGo.Go.Grammar.Expr

/-!
Declarations of constants, variables and types, with what they declare.
-/

namespace SchemaGo.Go.Grammar

open Reader

variable (inner : Inner)

def expressions (s : Setting) : Reader Unit :=
  discard (sepList s.tail "," (expression inner s))

/-! ### Constants -/

def constSpec (tail : Tail) : Reader ConstSpec := do
  let names := (← sepList tail "," word).intersperse ","
  if ← takes tail "=" then
    expressions inner { tail := tail }
    return ⟨names, none⟩
  if ← seesType tail then
    let (_, text) ← spelled (type inner .closed)
    mark "="
    expressions inner { tail := tail }
    return ⟨names, some text⟩
  return ⟨names, none⟩

/-! ### Variables -/

def varSpec (tail : Tail) : Reader (List String) := do
  let names ← sepList .closed "," word
  if ← takes .closed "=" then expressions inner { tail := tail }
  else
    type inner tail
    if ← takes tail "=" then expressions inner { tail := tail }
  return names

/-! ### Types -/

inductive TypeSpec
  | struct (name : String) (fields : List String)
  | named (name underlying : String)
  /-- An alias or a generic type. -/
  | other (name : String)

def TypeSpec.name : TypeSpec → String
  | struct n _ | named n _ | other n => n

/-- The parameters of a generic type or function, behind the bracket: every name is followed
by a type, or by a comma and another name. -/
def typeParameters : Reader Unit := do
  let (typed, _) ← commaList "]" do
    discard word
    if (← sees .closed ",") then return false
    union inner .closed (type inner .closed)
    return true
  check (typed.getLast? == some true)

/-- The brackets of an array type or a slice type. -/
def arrayBrackets : Reader Unit := do
  mark "["
  unless ← takes .closed "]" do
    expression inner {}
    mark "]"

/-- Whether an array type or a slice type comes next. It is not taken. -/
def seesArray : Reader Bool := fun ts => some ((arrayBrackets inner ts).isSome, ts)

def typeSpec (tail : Tail) : Reader TypeSpec := do
  let name ← word
  if ← takes .closed "=" then
    type inner tail
    return .other name
  if (← sees .closed "[") && !(← seesArray inner) then
    mark "["
    typeParameters inner
    type inner tail
    return .other name
  if ← takesWord .closed "struct" then return .struct name (← fields inner)
  let (_, text) ← spelled (type inner tail)
  return .named name text

def typeShape : List TypeSpec → Shape
  | [.struct n fs] => .struct n fs
  | [.named n u] => .named n u
  | specs => .other .types (specs.map (·.name))

/-! ### Declarations -/

/-- One `spec`, or a group of them. -/
def specs (tail : Tail) (spec : Tail → Reader α) : Reader (List α) := do
  if ← takes .closed "(" then fullLines ")" (spec .line) else return [← spec tail]

def declarationKeywords : List String := ["const", "var", "type"]

/-- A declaration, from its keyword on. -/
def declaration (tail : Tail) : Reader Shape := do
  match ← word with
  | "const" => return .consts (← specs tail (constSpec inner))
  | "var" => return .other .vars (← specs tail (varSpec inner)).flatten
  | "type" => return typeShape (← specs tail (typeSpec inner))
  | _ => failure

end SchemaGo.Go.Grammar
