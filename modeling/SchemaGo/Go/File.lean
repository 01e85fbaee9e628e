import SchemaGo.Go.Shape

/-!
A Go file as a list of top-level declarations, each with its exact text, so that what is not
replaced is printed as it was written. The imports are printed as one sorted block.
-/

namespace SchemaGo.Go

/-- An entry of the imports. -/
structure ImportSpec where
  /-- The comments on the lines above. -/
  leading : List String
  /-- The entry as written, with a comment on its line. -/
  text : String
  /-- The name that the entry gives to the package. -/
  name? : Option String
  path : String
deriving DecidableEq, Repr, Inhabited

namespace ImportSpec

def plain (path : String) : ImportSpec :=
  { leading := [], text := "\"" ++ path ++ "\"", name? := none, path }

/-- The last segment of a path. -/
def lastSegment (path : String) : String :=
  String.ofList (path.toList.reverse.takeWhile (· != '/')).reverse

/-- The name by which the file refers to the package. -/
def localName (s : ImportSpec) : String := s.name?.getD (lastSegment s.path)

end ImportSpec

/-- A top-level declaration. -/
structure Decl where
  /-- The comments above, up to the first character of the body. -/
  leading : String
  /-- The declaration as written, with a comment on its last line. -/
  body : String
  /-- A blank line stands above. -/
  blankBefore : Bool
  shape : Shape
  /-- The names that qualify others in the body, as `time` does in `time.Time`. -/
  qualifiers : List String
  /-- The declaration belongs to the generator in this run. -/
  managed : Bool
deriving DecidableEq, Repr, Inhabited

def Decl.generated (body : String) (shape : Shape) : Decl :=
  { leading := "", body, blankBefore := true, shape, qualifiers := [], managed := true }

structure File where
  /-- All that stands before the package clause. -/
  header : String := ""
  package : String := ""
  packageLine : String := ""
  /-- The comments above the import block. -/
  importLeading : String := ""
  imports : List ImportSpec := []
  /-- The comments at the end of the import block. -/
  importTail : List String := []
  decls : List Decl := []
  /-- The comments after the last declaration. -/
  trailer : String := ""
deriving DecidableEq, Repr, Inhabited

namespace File

/-- A file with nothing but its package clause. -/
def empty (package : String) : File :=
  { package, packageLine := "package " ++ package }

/-! ### Declarations -/

/-- The place of the first declaration of `name`. -/
def indexOf? (f : File) (name : String) : Option Nat :=
  f.decls.findIdx? (·.shape.declares name)

/-- The first declaration of `name`, and its place. -/
def find? (f : File) (name : String) : Option (Nat × Decl) := do
  let i ← f.indexOf? name
  return (i, ← f.decls[i]?)

/-- Where new declarations go: behind the imports, or last in a file without imports. -/
def anchor (f : File) : Nat := if f.imports.isEmpty then f.decls.length else 0

/-- The place at which `insert` puts a declaration. -/
def place (f : File) (i : Nat) : Nat := min i f.decls.length

def insert (f : File) (i : Nat) (d : Decl) : File :=
  { f with decls := f.decls.insertIdx (f.place i) d }

/-- Gives the declaration at `i` a new body and keeps the comments above it. -/
def replace (f : File) (i : Nat) (body : String) (shape : Shape) : File :=
  { f with decls := f.decls.modify i fun d => { d with body, shape, managed := true } }

def setManaged (f : File) (i : Nat) (managed : Bool) : File :=
  { f with decls := f.decls.modify i fun d => { d with managed } }

def remove (f : File) (i : Nat) : File := { f with decls := f.decls.eraseIdx i }

/-- The names that qualify others in what the generator does not own. -/
def preservedQualifiers (f : File) : List String :=
  (f.decls.filter (!·.managed)).flatMap (·.qualifiers)

/-! ### Imports -/

def hasImport (f : File) (path : String) : Bool := f.imports.any (·.path == path)

def addImport (f : File) (path : String) : File :=
  if f.hasImport path then f else { f with imports := f.imports ++ [.plain path] }

/-- The comments above the block go with its last entry. -/
def removeImport (f : File) (path : String) : File :=
  let imports := f.imports.filter (·.path != path)
  { f with
    imports
    importLeading := if imports.isEmpty && f.importTail.isEmpty then "" else f.importLeading }

/-! ### Printing -/

/-- The order of the entries: by path, and of one path those without an alias come first. -/
def importLE (a b : ImportSpec) : Bool :=
  if a.path = b.path then
    match a.name?, b.name? with
    | none, _ => true
    | some _, none => false
    | some x, some y => x ≤ y
  else a.path < b.path

/-- Of neighbours that agree in path and alias, only the first. -/
def dropRepeats : List ImportSpec → List ImportSpec
  | [] => []
  | s :: rest => go s rest
where
  go (s : ImportSpec) : List ImportSpec → List ImportSpec
    | [] => [s]
    | t :: rest =>
      if s.path = t.path ∧ s.name? = t.name? then go s rest else s :: go t rest

/-- The entries in the order of the printed block. -/
def sortedImports (f : File) : List ImportSpec :=
  dropRepeats (f.imports.mergeSort importLE)

def importLine (text : String) : String := "\t" ++ text ++ "\n"

def importBlock (specs : List ImportSpec) (tail : List String) : String :=
  let entry := fun (s : ImportSpec) => String.join (s.leading.map importLine) ++ importLine s.text
  "import (\n" ++ String.join (specs.map entry) ++ String.join (tail.map importLine) ++ ")"

def renderImports (f : File) : String :=
  match f.sortedImports with
  | [] => if f.importTail.isEmpty then "" else importBlock [] f.importTail
  | [s] =>
    if s.leading.isEmpty && f.importTail.isEmpty then "import " ++ s.text
    else importBlock [s] f.importTail
  | specs => importBlock specs f.importTail

/-- The import block with the comments above it, and a blank line before. -/
def importSection (f : File) : String :=
  let imports := f.renderImports
  if f.importLeading.isEmpty && imports.isEmpty then ""
  else
    "\n\n" ++ (if f.importLeading.isEmpty then "" else f.importLeading ++ "\n") ++ imports

def printDecl (blank : Bool) (d : Decl) : String :=
  (if blank then "\n\n" else "\n") ++ d.leading ++ d.body

def printDecls : List Decl → String
  | [] => ""
  | d :: ds => printDecl true d ++ String.join (ds.map fun d => printDecl d.blankBefore d)

def print (f : File) : String :=
  f.header ++ f.packageLine ++ f.importSection ++ printDecls f.decls ++
    (if f.trailer.isEmpty then "" else "\n\n" ++ f.trailer) ++ "\n"

end File

end SchemaGo.Go
