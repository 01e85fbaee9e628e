import SchemaGo.Cli.Run

/-!
The program: looks at the files that a command may touch, runs it on what has been seen, and
carries over what has changed.
-/

namespace SchemaGo.Cli

/-- The paths that a command may read or write, once its schema is in the tree. -/
def Options.reach (o : Options) (t : FileTree) : List String :=
  match o.schema?.bind (loadSchema? t) with
  | none => []
  | some s =>
    let s := s.filter o.filter
    s.outputDirs o.config ++ s.artifacts.map (·.path o.config)

/-- The path of a place. -/
def pathOf (p : Place) : String := "/" ++ "/".intercalate p

/-- What there is at a path. -/
def look (path : String) : IO (Option Entry) := do
  try
    let bytes ← IO.FS.readBinFile path
    match String.fromUTF8? bytes with
    | some s => return some (.text s)
    | none => return some (.binary bytes.toList)
  catch
    | .noFileOrDirectory .. => return none
    | .inappropriateType .. => return some .dir
    | e => throw e

/-- Adds what lies on the way of a path. -/
def survey (t : FileTree) (path : String) : IO FileTree := do
  let mut tree := t
  let mut place := t.start path
  for s in Path.steps path do
    if tree.get? place == some .dir then
      place := if Path.isIdle s then place else if s == ".." then place.dropLast else place ++ [s]
      if (tree.get? place).isNone then
        if let some e ← look (pathOf place) then tree := tree.put place e
  return tree

/-- The tree with nothing but the current directory. -/
def startTree : IO FileTree := do
  let here := Path.names (← IO.currentDir).toString
  let above := (List.range here.length).map fun n => (here.take (n + 1), Entry.dir)
  return { entries := above, current := here }

/-- Writes a file beside its place, and moves it there when it is complete. -/
def save (path content : String) : IO Unit := do
  let draft := path ++ ".new"
  IO.FS.writeFile draft content
  IO.FS.rename draft path

/-- Carries over what has changed, the oldest changes first. -/
def carryOver (old new : FileTree) : IO Unit := do
  for (p, e) in new.entries.reverse do
    if old.get? p != some e then
      match e with
      | .dir => IO.FS.createDirAll (pathOf p)
      | .text s => save (pathOf p) s
      | .binary _ => pure ()

def main (args : List String) : IO UInt32 := do
  let mut tree ← startTree
  if let .ok o := Options.read args then
    for path in o.schema?.toList do tree ← survey tree path
    for path in o.reach tree do tree ← survey tree path
  let (answer, after) := run args tree
  carryOver tree after
  IO.print answer.output
  IO.eprint answer.errors
  return answer.exitCode.toUInt32

end SchemaGo.Cli

def main (args : List String) : IO UInt32 := SchemaGo.Cli.main args
