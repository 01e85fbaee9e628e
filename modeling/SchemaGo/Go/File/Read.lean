import SchemaGo.Go.File
import SchemaGo.Go.Outline

/-!
Reading a Go file from its outline. A comment on the line on which an item ends belongs to
that item; other comments belong to the item below them, or to the end of the file.
-/

namespace SchemaGo.Go

inductive ReadError
  /-- The source breaks the grammar. -/
  | invalid
  | noPackage
deriving DecidableEq, Repr

def ReadError.message : ReadError → String
  | invalid => "syntax error"
  | noPackage => "missing package clause"

def trimmed (trim : List Char → List Char) (s : String) : String := String.ofList (trim s.toList)

def breaks (s : String) : Nat := s.toList.count '\n'

/-! ### Import groups -/

/-- The entries and the comments of a group that have been read. -/
structure GroupState where
  imports : List ImportSpec
  /-- The comments since the last entry, but for those on its line. -/
  leading : List String
  /-- The last entry ends on the line at hand. -/
  onLine : Bool

/-- Puts a comment behind the last of the entries. -/
def appendComment (imports : List ImportSpec) (text : String) : List ImportSpec :=
  imports.modify (imports.length - 1) fun s => { s with text := s.text ++ " " ++ text }

namespace GroupState

def step (g : GroupState) : ImportPart → GroupState
  | .lineBreak => { g with onLine := false }
  | .comment text =>
    let onLine := g.onLine && breaks text == 0
    if g.leading.isEmpty && g.onLine then
      { g with imports := appendComment g.imports text, onLine }
    else { g with leading := g.leading ++ [text], onLine }
  | .entry e =>
    { imports := g.imports ++ [⟨g.leading, e.text, e.name?, e.path⟩]
      leading := []
      onLine := true }

end GroupState

/-! ### Files -/

/-- What a comment on the same line belongs to. -/
inductive LastItem
  | nothing
  | package
  | imports
  | decl
deriving DecidableEq

structure ReadState where
  file : File
  seenPackage : Bool
  /-- The source so far. -/
  before : String
  /-- The source since the last item, up to the first comment on a line of its own. -/
  gap : String
  /-- The source from that comment on. -/
  pending : Option String
  last : LastItem

namespace ReadState

def start : ReadState := ⟨{}, false, "", "", none, .nothing⟩

/-- Takes blanks, or a comment on a line of its own. -/
def pass (s : ReadState) (text : String) : ReadState :=
  match s.pending with
  | some p => { s with pending := some (p ++ text) }
  | none => { s with gap := s.gap ++ text }

/-- The lines of the comments above an import, without blank ones. -/
def commentLines (text : String) : List String :=
  (lines text.toList).filterMap fun l =>
    let l := Text.trim l
    if l.isEmpty then none else some (String.ofList l)
where
  lines (cs : List Char) : List (List Char) := cs.splitOn '\n'

/-- A comment on the line on which the last item ends. -/
def attach (s : ReadState) (text : String) : ReadState :=
  let more := s.gap ++ text
  let file := match s.last with
    | .nothing => s.file
    | .package => { s.file with packageLine := s.file.packageLine ++ more }
    | .imports => { s.file with imports := appendComment s.file.imports text }
    | .decl =>
      { s.file with
        decls := s.file.decls.modify (s.file.decls.length - 1) fun d =>
          { d with body := d.body ++ more } }
  { s with file, gap := "" }

/-- The name in a package clause. -/
def packageName (text : String) : String :=
  trimmed Text.trim (String.ofList (text.toList.drop "package".length))

def addPackage (s : ReadState) (text : String) : ReadState :=
  { s with
    file := { s.file with
      header := trimmed Text.trimStart s.before
      packageLine := text
      package := packageName text }
    seenPackage := true
    last := .package }

def addImport (s : ReadState) (e : Import) : ReadState :=
  let leading := (s.pending.map (commentLines ∘ trimmed Text.trimEnd)).getD []
  { s with
    file := { s.file with imports := s.file.imports ++ [⟨leading, e.text, e.name?, e.path⟩] }
    last := .imports }

def addImports (s : ReadState) (parts : List ImportPart) : ReadState :=
  let f := s.file
  let importLeading := match s.pending with
    | none => f.importLeading
    | some text =>
      (if f.importLeading.isEmpty then "" else f.importLeading ++ "\n") ++
        trimmed Text.trimEnd text
  let g := parts.foldl GroupState.step ⟨f.imports, [], false⟩
  { s with
    file := { f with
      importLeading
      imports := g.imports
      importTail := f.importTail ++ g.leading }
    last := .imports }

def addDecl (s : ReadState) (text : String) (shape : Shape) (qualifiers : List String) :
    ReadState :=
  let d : Decl :=
    { leading := s.pending.getD ""
      body := text
      blankBefore := breaks s.gap ≥ 2
      shape
      qualifiers := qualifiers.eraseDups
      managed := false }
  { s with file := { s.file with decls := s.file.decls ++ [d] }, last := .decl }

def addItem (s : ReadState) (text : String) : Item → ReadState
  | .package => s.addPackage text
  | .importOne e => s.addImport e
  | .importGroup parts => s.addImports parts
  | .decl shape qualifiers => s.addDecl text shape qualifiers

def step (s : ReadState) (p : Piece) : ReadState :=
  let s' := match p with
    | .gap text => s.pass text
    | .comment text =>
      if s.pending.isNone && s.last ≠ LastItem.nothing && breaks s.gap == 0 then s.attach text
      else { s with pending := some (s.pending.getD "" ++ text) }
    | .item text i => { s.addItem text i with gap := "", pending := none }
  { s' with before := s.before ++ p.text }

end ReadState

/-- The file that an outline describes. -/
def File.ofPieces (ps : List Piece) : Except ReadError File :=
  let s := ps.foldl ReadState.step .start
  if s.seenPackage then
    .ok { s.file with trailer := (s.pending.map (trimmed Text.trimEnd)).getD s.file.trailer }
  else .error .noPackage

def File.read (source : String) : Except ReadError File :=
  match outline source with
  | none => .error .invalid
  | some ps => File.ofPieces ps

end SchemaGo.Go
