/-!
What a top-level declaration of a Go file declares.
-/

namespace SchemaGo.Go

/-- One line of a constant declaration. The commas between its names count as names. -/
structure ConstSpec where
  names : List String
  type : Option String
deriving DecidableEq, Repr, Inhabited

inductive DeclKind
  /-- A group of types, an alias or a generic type. -/
  | types
  | vars
  | function
  | method
  | statement
deriving DecidableEq, Repr, Inhabited

inductive Shape
  | struct (name : String) (fields : List String)
  | named (name underlying : String)
  | consts (specs : List ConstSpec)
  | other (kind : DeclKind) (names : List String)
deriving DecidableEq, Repr, Inhabited

def DeclKind.description : DeclKind → String
  | types => "a type declaration"
  | vars => "a variable"
  | function => "a function"
  | method => "a method"
  | statement => "a statement"

namespace Shape

def description : Shape → String
  | struct _ _ => "a struct type"
  | named _ _ => "a named type"
  | consts _ => "a constant"
  | other k _ => k.description

/-- The names that the declaration introduces, in order. -/
def names : Shape → List String
  | struct n _ | named n _ => [n]
  | consts specs => specs.flatMap (·.names)
  | other _ ns => ns

def declares (s : Shape) (name : String) : Bool := s.names.contains name

end Shape

/-- The name by which a struct embeds a type: `Trail` for `*audit.Trail`. -/
def embeddedName (type : String) : String :=
  let cs := type.toList.dropWhile (· == '*')
  String.ofList (cs.reverse.takeWhile (· != '.')).reverse

end SchemaGo.Go
