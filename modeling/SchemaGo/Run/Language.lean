import SchemaGo.Run.Generate

/-!
The languages for which there is a generator.
-/

namespace SchemaGo

inductive Language
  | go
deriving DecidableEq, Repr

namespace Language

def key : Language → String
  | go => "go"

/-- All languages, in the order of their keys. -/
def all : List Language := [go]

def ofKey? (key : String) : Option Language := all.find? (·.key == key)

def generate : Language → Schema → Config → FileTree → Except BadDirectory Report × FileTree
  | go => SchemaGo.generate

end Language

end SchemaGo
