import SchemaGo.Config
import SchemaGo.Schema.Filter
import SchemaGo.Text.Cut

/-!
The options of the command line.
-/

namespace SchemaGo.Cli

open Text

/-- An option that is given with a value. -/
inductive ValueKey
  | schema
  | databaseSchema
  | envFile
  | output
  | languages
  | modelsPackage
  | queriesPackage
  | modelsImport
  | migrationsTable
  | tables
  | exclude
deriving DecidableEq, Repr

inductive Flag
  | introspect
  | check
  | verbose
deriving DecidableEq, Repr

/-- Why no command is run. -/
inductive Stop
  | usage
  | help
  | version
deriving DecidableEq, Repr

/-- What an option is known by. -/
inductive Key
  | value (key : ValueKey)
  | flag (flag : Flag)
  | stop (stop : Stop)
deriving DecidableEq, Repr

def longKeys : List (String × Key) :=
  [("schema", .value .schema), ("introspect", .flag .introspect),
    ("db-schema", .value .databaseSchema), ("env-file", .value .envFile),
    ("output", .value .output), ("lang", .value .languages),
    ("models-package", .value .modelsPackage), ("queries-package", .value .queriesPackage),
    ("models-import", .value .modelsImport), ("migrations-table", .value .migrationsTable),
    ("tables", .value .tables), ("exclude", .value .exclude), ("check", .flag .check),
    ("verbose", .flag .verbose), ("help", .stop .help), ("version", .stop .version)]

def shortKeys : List (Char × Key) :=
  [('o', .value .output), ('v', .flag .verbose), ('h', .stop .help), ('V', .stop .version)]

/-! ### Arguments -/

inductive Occurrence
  | value (key : ValueKey) (text : String)
  | flag (flag : Flag)
deriving DecidableEq, Repr

/-- What an argument holds. -/
structure Reading where
  occurrences : List Occurrence
  /-- The option whose value is the next argument. -/
  pending? : Option ValueKey := none
deriving DecidableEq, Repr

def readLong (cs : List Char) : Except Stop Reading :=
  let (name, value?) := match cut? ['='] cs with
    | some (name, value) => (name, some (String.ofList value))
    | none => (cs, none)
  match longKeys.lookup (String.ofList name), value? with
  | some (.value k), some v => .ok ⟨[.value k v], none⟩
  | some (.value k), none => .ok ⟨[], some k⟩
  | some (.flag f), none => .ok ⟨[.flag f], none⟩
  | some (.stop s), none => .error s
  | _, _ => .error .usage

/-- Reads options of one character each. The value of an option follows at once, perhaps
behind an equals sign, or is the next argument. -/
def readShort : List Char → Except Stop Reading
  | [] => .ok ⟨[], none⟩
  | c :: cs =>
    match shortKeys.lookup c with
    | some (.flag f) => (readShort cs).map fun r => { r with occurrences := .flag f :: r.occurrences }
    | some (.value k) =>
      match cs with
      | [] => .ok ⟨[], some k⟩
      | '=' :: v => .ok ⟨[.value k (String.ofList v)], none⟩
      | v => .ok ⟨[.value k (String.ofList v)], none⟩
    | some (.stop s) => .error s
    | none => .error .usage

def readArgument (arg : String) : Except Stop Reading :=
  match arg.toList with
  | '-' :: '-' :: cs => readLong cs
  | '-' :: c :: cs => readShort (c :: cs)
  | _ => .error .usage

/-- Whether the argument is no value. A dash alone is one. -/
def looksLikeOption (arg : String) : Bool :=
  match arg.toList with
  | '-' :: _ :: _ => true
  | _ => false

/-- Reads the arguments, the first of which is the value of `pending?`. Nothing may follow two
dashes. -/
def readArguments (pending? : Option ValueKey) : List String → Except Stop (List Occurrence)
  | [] => if pending?.isSome then .error .usage else .ok []
  | arg :: args =>
    match pending? with
    | some k =>
      if looksLikeOption arg then .error .usage
      else (readArguments none args).map (.value k arg :: ·)
    | none =>
      if arg = "--" then if args.isEmpty then .ok [] else .error .usage
      else do
        let r ← readArgument arg
        return r.occurrences ++ (← readArguments r.pending? args)

/-! ### Options -/

structure Options where
  schema? : Option String := none
  introspect : Bool := false
  databaseSchema : String := "public"
  envFile : String := "./.env"
  output : String := "./db"
  languages : List String := ["go"]
  modelsPackage : String := "models"
  queriesPackage : String := "queries"
  modelsImport? : Option String := none
  migrationsTable : String := "schema_migrations"
  tables? : Option (List String) := none
  exclude? : Option (List String) := none
  check : Bool := false
  verbosity : Nat := 0
deriving DecidableEq, Repr

/-- The values of an option. -/
def valuesOf (k : ValueKey) (os : List Occurrence) : List String :=
  os.filterMap fun
    | .value k' v => if k' = k then some v else none
    | .flag _ => none

def flagCount (f : Flag) (os : List Occurrence) : Nat := os.count (.flag f)

def splitCommas (s : String) : List String := (s.toList.splitOn ',').map String.ofList

/-- The members of the lists that are given, if any is. -/
def listOf (k : ValueKey) (os : List Occurrence) : Option (List String) :=
  let vs := valuesOf k os
  if vs.isEmpty then none else some (vs.flatMap splitCommas)

/-- The options that are given once at most. -/
def singleKeys : List ValueKey :=
  [.schema, .databaseSchema, .envFile, .output, .modelsPackage, .queriesPackage, .modelsImport,
    .migrationsTable]

def singleFlags : List Flag := [.introspect, .check]

/-- The options whose values are paths, and so are not empty. -/
def pathKeys : List ValueKey := [.schema, .envFile, .output]

def areAllowed (os : List Occurrence) : Bool :=
  singleKeys.all (fun k => (valuesOf k os).length ≤ 1) &&
    singleFlags.all (fun f => flagCount f os ≤ 1) &&
    pathKeys.all (fun k => (valuesOf k os).all (!·.isEmpty))

def Options.ofOccurrences (os : List Occurrence) : Options :=
  let given := fun k => (valuesOf k os).head?
  let base : Options := {}
  { schema? := given .schema
    introspect := flagCount .introspect os > 0
    databaseSchema := (given .databaseSchema).getD base.databaseSchema
    envFile := (given .envFile).getD base.envFile
    output := (given .output).getD base.output
    languages := (listOf .languages os).getD base.languages
    modelsPackage := (given .modelsPackage).getD base.modelsPackage
    queriesPackage := (given .queriesPackage).getD base.queriesPackage
    modelsImport? := given .modelsImport
    migrationsTable := (given .migrationsTable).getD base.migrationsTable
    tables? := listOf .tables os
    exclude? := listOf .exclude os
    check := flagCount .check os > 0
    verbosity := flagCount .verbose os }

def Options.read (args : List String) : Except Stop Options := do
  let os ← readArguments none args
  if areAllowed os then return .ofOccurrences os else throw .usage

namespace Options

def filter (o : Options) : TableFilter :=
  { included := o.tables?
    excluded := o.exclude?.getD []
    bookkeeping := some o.migrationsTable }

def config (o : Options) : Config :=
  { output := o.output
    modelsPackage := o.modelsPackage
    queriesPackage := o.queriesPackage
    modelsImport? := o.modelsImport?
    mode := if o.check then .check else .write }

end Options

end SchemaGo.Cli
