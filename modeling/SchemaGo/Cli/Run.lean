import SchemaGo.Cli.Options
import SchemaGo.Run.Language
import SchemaGo.Schema.Load

/-!
The command line: reads a schema from a file, makes the files of every language that is asked
for, and says what has become of them.
-/

namespace SchemaGo.Cli

/-- What a command prints and ends with. -/
structure Answer where
  exitCode : UInt8
  output : String := ""
  errors : String := ""
deriving DecidableEq, Repr

/-! ### Texts -/

def usage : String :=
  "Usage: [--schema FILE] [--output DIR] [--lang LANGUAGES] [--models-package NAME]\n" ++
  "       [--queries-package NAME] [--models-import PATH] [--migrations-table TABLE]\n" ++
  "       [--tables TABLES] [--exclude TABLES] [--check] [--verbose]\n"

def version : String := "0.1.0\n"

/-- A line about a file. -/
def outcomeLine (status label rest : String) : String :=
  Text.padded 10 status ++ " " ++ Text.padded 32 label ++ " " ++ rest ++ "\n"

def summaryLine (language : String) (s : Summary) : String :=
  language ++ ": " ++ s.created.repr ++ " created, " ++ s.updated.repr ++ " updated, " ++
    s.unchanged.repr ++ " unchanged, " ++ s.stale.repr ++ " stale, " ++ s.failed.repr ++
    " failed\n"

def outputLine (o : Outcome) : String :=
  match o.result with
  | .ok s => outcomeLine s.label o.label o.path
  | .error _ => ""

def errorLine (o : Outcome) : String :=
  match o.result with
  | .ok _ => ""
  | .error f => outcomeLine "failed" o.label f.message

/-- What is printed about a run, before what comes of the languages after it. -/
def Answer.after (language : String) (r : Report) (a : Answer) : Answer :=
  { exitCode := if a.exitCode = 0 && r.isFailure then 1 else a.exitCode
    output := String.join (r.map outputLine) ++ summaryLine language r.summary ++ a.output
    errors := String.join (r.map errorLine) ++ a.errors }

/-! ### Commands -/

/-- Makes the files of one language after the other. An unknown language ends the command, and
so do directories that cannot be used. -/
def generateAll (s : Schema) (c : Config) : List String → FileTree → Answer × FileTree
  | [], t => ({ exitCode := 0 }, t)
  | l :: ls, t =>
    match Language.ofKey? l with
    | none => ({ exitCode := 1 }, t)
    | some language =>
      match language.generate s c t with
      | (.error _, t) => ({ exitCode := 1 }, t)
      | (.ok report, t) =>
        let (answer, t) := generateAll s c ls t
        (answer.after l report, t)

/-- The schema of a file, if it can be read. -/
def loadSchema? (t : FileTree) (path : String) : Option Schema :=
  match t.readText path with
  | .ok text => (Schema.ofJson text).toOption
  | .error _ => none

/-- Runs a command. There is no database to look into, so the schema comes from a file. -/
def Options.run (o : Options) (t : FileTree) : Answer × FileTree :=
  match if o.introspect then none else o.schema?.bind (loadSchema? t) with
  | none => ({ exitCode := 1 }, t)
  | some s => generateAll (s.filter o.filter) o.config o.languages t

def run (args : List String) (t : FileTree) : Answer × FileTree :=
  match Options.read args with
  | .ok o => o.run t
  | .error .usage => ({ exitCode := 2, errors := usage }, t)
  | .error .help => ({ exitCode := 0, output := usage }, t)
  | .error .version => ({ exitCode := 0, output := version }, t)

end SchemaGo.Cli
