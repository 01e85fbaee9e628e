import SchemaGo.Query.File

/-!
The Go text of the file of a query.
-/

namespace SchemaGo.QueryFile

open Go

def commaSeparated (xs : List String) : String := ", ".intercalate xs

/-- A line behind `depth` tabs. -/
def line (depth : Nat) (text : String) : String :=
  String.ofList (List.replicate depth '\t') ++ text ++ "\n"

def importEntry (path : String) : String := line 1 ("\"" ++ path ++ "\"")

def renderImports (f : QueryFile) : String :=
  "import (\n" ++ String.join (f.imports.map importEntry) ++
    (f.modelsImport?.elim "" fun path => "\n" ++ importEntry path) ++ ")\n"

/-- The declaration of the row type, with a blank line above. -/
def renderRowType (f : QueryFile) : String :=
  match f.returns.row? with
  | some { type, fields? := some fields, .. } =>
    let field := fun (r : RowField) => Field.named r.name (r.type.qualified f.models)
    "\n" ++ renderStruct type (fields.map field) ++ "\n"
  | _ => ""

def signature (f : QueryFile) : String :=
  commaSeparated ("ctx context.Context" :: "db Querier" ::
    f.arguments.map fun a => a.name ++ " " ++ a.type.qualified f.models)

def resultType (f : QueryFile) : String :=
  match f.returns with
  | .one r => "(" ++ r.type ++ ", error)"
  | .many r => "([]" ++ r.type ++ ", error)"
  | .errorOnly => "error"
  | .affectedRows => "(int64, error)"

/-- What the statement is run with. -/
def callArguments (f : QueryFile) : String :=
  commaSeparated ("ctx" :: f.constant :: f.arguments.map (·.name))

def scanArguments (r : Row) : String := commaSeparated (r.targets.map (·.address))

/-- The variables for what is decoded later. -/
def declareBytes (depth : Nat) (r : Row) : String :=
  String.join (r.targets.map fun
    | .field _ => ""
    | .decoded bytes _ => line depth ("var " ++ bytes ++ " []byte"))

/-- Decodes what has been read as bytes. Where that fails the function ends with `failure`. -/
def decodeBytes (depth : Nat) (failure : String) (r : Row) : String :=
  String.join (r.targets.map fun
    | .field _ => ""
    | .decoded bytes field =>
      line depth ("if len(" ++ bytes ++ ") > 0 \x7b") ++
      line (depth + 1)
        ("if err := json.Unmarshal(" ++ bytes ++ ", &i." ++ field ++ "); err != nil \x7b") ++
      line (depth + 2) failure ++
      line (depth + 1) "\x7d" ++
      line depth "\x7d")

def renderBody (f : QueryFile) : String :=
  match f.returns with
  | .one r =>
    line 1 ("row := db.QueryOne(" ++ f.callArguments ++ ")") ++
    line 1 ("var i " ++ r.type) ++
    declareBytes 1 r ++
    line 1 ("if err := row.Scan(" ++ scanArguments r ++ "); err != nil \x7b") ++
    line 2 "return i, err" ++
    line 1 "\x7d" ++
    decodeBytes 1 "return i, err" r ++
    line 1 "return i, nil"
  | .many r =>
    line 1 ("rows, err := db.QueryMany(" ++ f.callArguments ++ ")") ++
    line 1 "if err != nil \x7b" ++
    line 2 "return nil, err" ++
    line 1 "\x7d" ++
    line 1 "defer rows.Close()" ++
    line 1 ("var items []" ++ r.type) ++
    line 1 "for rows.Next() \x7b" ++
    line 2 ("var i " ++ r.type) ++
    declareBytes 2 r ++
    line 2 ("if err := rows.Scan(" ++ scanArguments r ++ "); err != nil \x7b") ++
    line 3 "return nil, err" ++
    line 2 "\x7d" ++
    decodeBytes 2 "return nil, err" r ++
    line 2 "items = append(items, i)" ++
    line 1 "\x7d" ++
    line 1 "if err := rows.Err(); err != nil \x7b" ++
    line 2 "return nil, err" ++
    line 1 "\x7d" ++
    line 1 "return items, nil"
  | .errorOnly =>
    line 1 ("_, err := db.Execute(" ++ f.callArguments ++ ")") ++ line 1 "return err"
  | .affectedRows => line 1 ("return db.Execute(" ++ f.callArguments ++ ")")

def render (f : QueryFile) : String :=
  "package " ++ f.package ++ "\n\n" ++ f.renderImports ++ f.renderRowType ++
    "\nconst " ++ f.constant ++ " = " ++ sqlLiteral f.sql ++ "\n\n" ++
    "func " ++ f.function ++ "(" ++ f.signature ++ ") " ++ f.resultType ++ " \x7b\n" ++
    f.renderBody ++ "\x7d\n"

end SchemaGo.QueryFile
