/-!
The file that all functions of the queries package share: what they ask of a database, and the
implementation of it on the connections of the standard library.
-/

namespace SchemaGo

def querierLines : List String :=
  ["",
    "import (",
    "\t\"context\"",
    "\t\"database/sql\"",
    ")",
    "",
    "// Row is a single result row.",
    "type Row interface \x7b",
    "\tScan(dest ...any) error",
    "\x7d",
    "",
    "// Rows is a cursor over a result set.",
    "type Rows interface \x7b",
    "\tClose() error",
    "\tErr() error",
    "\tNext() bool",
    "\tScan(dest ...any) error",
    "\x7d",
    "",
    "// DBTX is satisfied by *sql.DB, *sql.Conn and *sql.Tx.",
    "type DBTX interface \x7b",
    "\tExecContext(ctx context.Context, query string, args ...any) (sql.Result, error)",
    "\tQueryContext(ctx context.Context, query string, args ...any) (*sql.Rows, error)",
    "\tQueryRowContext(ctx context.Context, query string, args ...any) *sql.Row",
    "\x7d",
    "",
    "// Querier runs the statements behind the generated query functions.",
    "// Execute reports the number of affected rows.",
    "type Querier interface \x7b",
    "\tExecute(ctx context.Context, query string, args ...any) (int64, error)",
    "\tQueryMany(ctx context.Context, query string, args ...any) (Rows, error)",
    "\tQueryOne(ctx context.Context, query string, args ...any) Row",
    "\x7d",
    "",
    "// New returns a Querier backed by db.",
    "func New(db DBTX) Querier \x7b",
    "\treturn &querier\x7bdb: db\x7d",
    "\x7d",
    "",
    "type querier struct \x7b",
    "\tdb DBTX",
    "\x7d",
    "",
    "func (q *querier) Execute(ctx context.Context, query string, args ...any) (int64, error) \x7b",
    "\tresult, err := q.db.ExecContext(ctx, query, args...)",
    "\tif err != nil \x7b",
    "\t\treturn 0, err",
    "\t\x7d",
    "\treturn result.RowsAffected()",
    "\x7d",
    "",
    "func (q *querier) QueryMany(ctx context.Context, query string, args ...any) (Rows, error) \x7b",
    "\trows, err := q.db.QueryContext(ctx, query, args...)",
    "\tif err != nil \x7b",
    "\t\treturn nil, err",
    "\t\x7d",
    "\treturn rows, nil",
    "\x7d",
    "",
    "func (q *querier) QueryOne(ctx context.Context, query string, args ...any) Row \x7b",
    "\treturn q.db.QueryRowContext(ctx, query, args...)",
    "\x7d"]

/-- The text of the file. It depends on nothing but the name of the package. -/
def renderQuerier (package : String) : String :=
  "package " ++ package ++ "\n" ++ String.join (querierLines.map (· ++ "\n"))

end SchemaGo
