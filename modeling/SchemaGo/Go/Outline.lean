import SchemaGo.Go.Grammar.Statement
import SchemaGo.Go.Lexeme.Scan

/-!
The outline of a Go source: its top-level items, with the blanks and comments between them.
The texts of the pieces, one after the other, are the source.
-/

namespace SchemaGo.Go

open Grammar Reader

structure Import where
  text : String
  name? : Option String
  path : String
deriving DecidableEq, Repr, Inhabited

/-- What counts in the parentheses of an import group. -/
inductive ImportPart
  | lineBreak
  | comment (text : String)
  | entry (entry : Import)
deriving DecidableEq, Repr

inductive Item
  | package
  | importOne (entry : Import)
  | importGroup (parts : List ImportPart)
  /-- A declaration or a statement, with the names that qualify others in it. -/
  | decl (shape : Shape) (qualifiers : List String)
deriving DecidableEq, Repr

inductive Piece
  /-- White space and terminators. -/
  | gap (text : String)
  | comment (text : String)
  | item (text : String) (item : Item)
deriving DecidableEq, Repr

def Piece.text : Piece → String
  | gap s | comment s | item s _ => s

/-! ### Qualifiers -/

/-- The words that are never the name of a package: they stand for values. -/
def valueWords : List String := ["nil", "true", "false", "iota"]

/-- The words with a point and another word behind them. A word behind a point is a part of
what it qualifies; `selected` says whether a point has just been passed. -/
def qualifiersFrom (selected : Bool) : List Lexeme → List String
  | [] => []
  | .blank _ :: ts | .comment _ :: ts | .newline :: ts => qualifiersFrom selected ts
  | .mark '.' :: .mark '.' :: .mark '.' :: ts => qualifiersFrom false ts
  | .mark '.' :: ts => qualifiersFrom true ts
  | .word w :: ts =>
    let rest := qualifiersFrom false ts
    match upcoming .closed ts with
    | .mark '.' :: us =>
      match next .closed us with
      | some (.word _, _) => if selected || valueWords.contains w then rest else w :: rest
      | _ => rest
    | _ => rest
  | _ :: ts => qualifiersFrom false ts

/-! ### Items -/

/-- The text between the quotes of a string literal. -/
def unquote (literal : String) : String :=
  let isQuote := fun c => c == '"' || c == '\x60'
  String.ofList ((literal.toList.dropWhile isQuote).reverse.dropWhile isQuote).reverse

def importEntry : Reader Import := do
  let ((name?, literal), text) ← spelled do
    match ← advance with
    | .string s => return (none, s)
    | .word w => return (some w, ← path)
    | .mark '.' => return (some ".", ← path)
    | _ => failure
  return ⟨text, name?, unquote literal⟩
where
  path : Reader String := do
    match ← advance with
    | .string s => return s
    | _ => failure

/-- An entry of an import group, and what `rest` reads behind it. -/
def importPart (owed : Bool) (rest : Reader (List ImportPart)) : Reader (List ImportPart) := do
  check !owed
  let e ← importEntry
  return .entry e :: (← rest)

/-- The rest of an import group. Between two entries stands a terminator; `owed` says that an
entry has been read and none has followed yet. -/
def importParts : Nat → Bool → Reader (List ImportPart)
  | 0, _ => failure
  | n + 1, owed => do
    match ← get with
    | .blank _ :: ts => set ts; importParts n owed
    | .newline :: ts => set ts; return .lineBreak :: (← importParts n false)
    | .comment s :: ts => set ts; return .comment s :: (← importParts n owed)
    | .mark c :: ts =>
      if c = ')' then set ts; return []
      else if owed && (c = ';' || c = '\x00') then set ts; importParts n false
      else importPart owed (importParts n true)
    | _ => importPart owed (importParts n true)

def importItem : Reader Item := do
  discard word
  if ← takes .closed "(" then
    let parts ← fun ts => importParts (ts.length + 1) false ts
    return .importGroup parts
  else return .importOne (← importEntry)

def packageItem : Reader Item := do
  discard word
  discard word
  return .package

variable (inner : Inner)

/-- The body of a function, which may be missing. -/
def functionRest : Reader Unit := do
  parameters inner
  results inner .line
  if ← sees .line "\x7b" then block inner

def functionItem : Reader Shape := do
  discard word
  let name ← word
  if ← takes .closed "[" then typeParameters inner
  functionRest inner
  return .other .function [name]

/-- A method, told from a function literal by the name between two parameter lists. -/
def methodItem : Reader Shape := do
  discard word
  parameters inner
  let name ← word
  check !(typeKeywords.contains name)
  check (← sees .closed "(")
  functionRest inner
  return .other .method []

/-- The shape of a top-level item that must be followed by a terminator. -/
def statementShape : Reader Shape := do
  match ← peek .closed with
  | some (.word w) =>
    if declarationKeywords.contains w then declaration inner .line
    else statement
  | _ => statement
where
  -- at the top level the statement behind a label may not be left out
  statement : Reader Shape := do
    statementAt inner .line true
    return .other .statement []

/-- A top-level item, and whether the source may end without a terminator behind it. -/
def item : Reader (Item × Bool) := fun ts =>
  let qualified := fun (last : Bool) (r : Reader Shape) => do
    let (shape, rest) ← r ts
    let taken := ts.take (ts.length - rest.length)
    return ((Item.decl shape (qualifiersFrom false taken), last), rest)
  match ts with
  | .word "package" :: _ => (packageItem ts).map fun (i, rest) => ((i, true), rest)
  | .word "import" :: _ => (importItem ts).map fun (i, rest) => ((i, true), rest)
  | .word "func" :: _ =>
    qualified true (functionItem inner) <|> qualified true (methodItem inner) <|>
      qualified false (statementShape inner)
  | _ => qualified false (statementShape inner)

/-- What may come next at the top level. -/
inductive Due
  | item
  | terminator
  /-- A terminator or the end of the source. -/
  | terminatorOrEnd
deriving DecidableEq

def outlineFrom : Nat → Due → List Lexeme → Option (List Piece)
  | _, due, [] => if due = .terminator then none else some []
  | 0, _, _ :: _ => none
  | n + 1, due, t :: ts => do
    match t with
    | .blank s => return .gap s :: (← outlineFrom n due ts)
    | .comment s => return .comment s :: (← outlineFrom n due ts)
    | .newline => return .gap "\n" :: (← outlineFrom n .item ts)
    | _ =>
      if due = .item then
        let ((i, last), rest) ← item inner (t :: ts)
        let text := Lexeme.spell ((t :: ts).take ((t :: ts).length - rest.length))
        return .item text i ::
          (← outlineFrom n (if last then .terminatorOrEnd else .terminator) rest)
      else if t = .mark ';' ∨ t = .mark '\x00' then
        return .gap t.text :: (← outlineFrom n .item ts)
      else none

/-- The outline of a source, unless it breaks the grammar. -/
def outline (source : String) : Option (List Piece) :=
  let ts := Lexeme.scan source
  outlineFrom (upTo (ts.length + 1)) (ts.length + 1) .item ts

end SchemaGo.Go
