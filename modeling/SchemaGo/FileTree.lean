import SchemaGo.Path

/-!
A tree of files and directories, and what can be done with it. Places in the tree are lists of
names from its root; paths are texts, and lead from the root or from the current directory.
-/

namespace SchemaGo

abbrev Place := List String

inductive Entry
  | dir
  | text (content : String)
  /-- A file that is no text. -/
  | binary (content : List UInt8)
deriving DecidableEq, Repr

inductive IoError
  | notFound
  | notADirectory
  | isADirectory
  | alreadyExists
  | invalidData
deriving DecidableEq, Repr

def IoError.message : IoError → String
  | notFound => "No such file or directory (os error 2)"
  | notADirectory => "Not a directory (os error 20)"
  | isADirectory => "Is a directory (os error 21)"
  | alreadyExists => "File exists (os error 17)"
  | invalidData => "stream did not contain valid UTF-8"

structure FileTree where
  /-- What there is below the root. -/
  entries : List (Place × Entry) := []
  /-- The current directory. -/
  current : Place := []
deriving DecidableEq, Repr

namespace FileTree

def get? (t : FileTree) (p : Place) : Option Entry :=
  if p.isEmpty then some .dir else t.entries.lookup p

def put (t : FileTree) (p : Place) (e : Entry) : FileTree :=
  { t with entries := (p, e) :: t.entries.filter (·.1 != p) }

@[simp] theorem get?_nil (t : FileTree) : t.get? [] = some .dir := rfl

theorem get?_put_self (t : FileTree) {p : Place} (e : Entry) (h : p ≠ []) :
    (t.put p e).get? p = some e := by
  simp [get?, put, h]

theorem lookup_filter_ne {p q : Place} (es : List (Place × Entry)) (h : q ≠ p) :
    (es.filter (·.1 != p)).lookup q = es.lookup q := by
  induction es with
  | nil => rfl
  | cons x es ih =>
    obtain ⟨k, e⟩ := x
    by_cases hk : k = p
    · subst hk
      simp [List.lookup_cons, beq_eq_false_iff_ne.2 h, ih]
    · by_cases hq : q = k <;> simp [List.lookup_cons, hk, hq, ih]

theorem get?_put_of_ne (t : FileTree) {p q : Place} (e : Entry) (h : q ≠ p) :
    (t.put p e).get? q = t.get? q := by
  simp [get?, put, List.lookup_cons, beq_eq_false_iff_ne.2 h, lookup_filter_ne t.entries h]

/-! ### Paths -/

/-- The place to which a step leads. Steps are made from directories only. -/
def step (t : FileTree) (p : Place) (s : String) : Except IoError Place :=
  match t.get? p with
  | some .dir => .ok (if Path.isIdle s then p else if s = ".." then p.dropLast else p ++ [s])
  | some _ => .error .notADirectory
  | none => .error .notFound

/-- The place from which a path leads. -/
def start (t : FileTree) (path : String) : Place :=
  if Path.isAbsolute path then [] else t.current

def walk (t : FileTree) (p : Place) (steps : List String) : Except IoError Place :=
  steps.foldlM t.step p

/-- The place of a path. There may be nothing, but the directory above is there. -/
def locate (t : FileTree) (path : String) : Except IoError Place :=
  if path.isEmpty then .error .notFound else t.walk (t.start path) (Path.steps path)

/-- Whether the steps lead to a directory. -/
def isDir (t : FileTree) (p : Place) (steps : List String) : Bool :=
  match t.walk p steps with
  | .ok q => t.get? q == some .dir
  | .error _ => false

/-! ### Files -/

def readText (t : FileTree) (path : String) : Except IoError String :=
  match t.locate path with
  | .error e => .error e
  | .ok p =>
    match t.get? p with
    | none => .error .notFound
    | some .dir => .error .isADirectory
    | some (.binary _) => .error .invalidData
    | some (.text s) => .ok s

def writeText (t : FileTree) (path content : String) : Except IoError FileTree :=
  match t.locate path with
  | .error e => .error e
  | .ok p => if t.get? p = some .dir then .error .isADirectory else .ok (t.put p (.text content))

/-! ### Directories -/

/-- Makes the directory to which the steps lead, the last of them first. The directory above
must be there, and no entry of that name. -/
def makeDir (t : FileTree) (p : Place) : List String → Except IoError FileTree
  | [] => .error .alreadyExists
  | s :: up =>
    match t.walk p (up.reverse ++ ["."]) with
    | .error e => .error e
    | .ok q =>
      if Path.isIdle s || s == ".." || (t.get? (q ++ [s])).isSome then .error .alreadyExists
      else .ok (t.put (q ++ [s]) .dir)

/-- Makes a directory, or finds it there. -/
def makeDirIfMissing (t : FileTree) (p : Place) (up : List String) :
    Except IoError Unit × FileTree :=
  match t.makeDir p up with
  | .ok t => (.ok (), t)
  | .error e => if t.isDir p up.reverse then (.ok (), t) else (.error e, t)

/-- Makes the directory to which the steps lead, the last of them first, and those above that
are missing. Those stay if it cannot be made. -/
def makeDirsUp (t : FileTree) (p : Place) : List String → Except IoError Unit × FileTree
  | [] => (.ok (), t)
  | s :: up =>
    match t.makeDirIfMissing p (s :: up) with
    | (.error .notFound, t) =>
      match t.makeDirsUp p up with
      | (.ok (), t) => t.makeDirIfMissing p (s :: up)
      | (.error e, t) => (.error e, t)
    | r => r

/-- The steps of a path that lead elsewhere, the last one first. -/
def upwards (path : String) : List String :=
  ((Path.steps path).filter (!Path.isIdle ·)).reverse

/-- Whether the last step of a path is a dot. No directory is made by such a name. -/
def endsWithDot (path : String) : Bool :=
  ((Path.steps path).reverse.dropWhile (·.isEmpty)).head? == some "."

/-- Makes the directory and those above that are missing. -/
def makeDirs (t : FileTree) (path : String) : Except IoError Unit × FileTree :=
  let p := t.start path
  let up := upwards path
  if endsWithDot path && !t.isDir p up.reverse then
    match t.walk p (up.reverse ++ ["."]) with
    | .error .notFound =>
      match t.makeDirsUp p up.tail with
      | (.ok (), t) => (.error .notFound, t)
      | r => r
    | .error e => (.error e, t)
    | .ok _ => (.ok (), t)
  else t.makeDirsUp p up

end FileTree

end SchemaGo
