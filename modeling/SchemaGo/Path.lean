/-!
Paths as texts, with a slash between their steps.
-/

namespace SchemaGo.Path

def isAbsolute (path : String) : Bool := path.toList.head? == some '/'

/-- The texts between the slashes; some may be empty. -/
def steps (path : String) : List String := (path.toList.splitOn '/').map String.ofList

/-- A step that stays where it is. -/
def isIdle (step : String) : Bool := step.isEmpty || step == "."

/-- The path of `path` as seen from `base`. The path of the empty text is `base` with a slash
at its end. -/
def join (base path : String) : String :=
  if isAbsolute path || base.isEmpty then path
  else if base.toList.getLast? == some '/' then base ++ path
  else base ++ "/" ++ path

/-- The names of a path, without the steps that stay and those that lead upwards. -/
def names (path : String) : List String :=
  (steps path).filter fun s => !isIdle s && s != ".."

/-- The directory that holds the path. -/
def parent (path : String) : String :=
  let upTo := path.toList.reverse.dropWhile (· != '/')
  if upTo.isEmpty then "."
  else
    let dir := String.ofList (upTo.dropWhile (· == '/')).reverse
    if dir.isEmpty then "/" else dir

end SchemaGo.Path
