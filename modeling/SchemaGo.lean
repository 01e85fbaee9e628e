import SchemaGo.Connection.Dotenv
import SchemaGo.Connection.Settings
import SchemaGo.Go.Lexeme.Spell
import SchemaGo.Main
import SchemaGo.Proofs.Go.Edit
import SchemaGo.Proofs.Merge.Frame
import SchemaGo.Proofs.Directories
import SchemaGo.Proofs.Run.Visits
import SchemaGo.Proofs.Run.Overwrite
import SchemaGo.Proofs.Go.Literal
import SchemaGo.Proofs.Go.Outline
import SchemaGo.Proofs.Go.Sections
import SchemaGo.Proofs.Go.Reader
import SchemaGo.Proofs.Go.GeneratedItems
import SchemaGo.Proofs.Go.ImportSections
import SchemaGo.Proofs.Go.ReadBack
import SchemaGo.Proofs.Merge.Plain
import SchemaGo.Proofs.Run.Places
import SchemaGo.Proofs.Run.SecondRun
import SchemaGo.Proofs.Merge.History
import SchemaGo.Proofs.Merge.Fields
import SchemaGo.Proofs.Merge.Columns
import SchemaGo.Proofs.Go.Canonical
import SchemaGo.Proofs.Merge.Names
import SchemaGo.Proofs.Go.Calls
import SchemaGo.Proofs.Go.Blocks
import SchemaGo.Proofs.Go.Statements
import SchemaGo.Proofs.Go.Functions
import SchemaGo.Proofs.Query.Body
import SchemaGo.Proofs.Query.ReadBack
import SchemaGo.Proofs.Query.Plain
import SchemaGo.Proofs.Query.Querier
import SchemaGo.Proofs.Run.Declared
import SchemaGo.Proofs.Merge.Hygiene
import SchemaGo.Proofs.Merge.Resolve
import SchemaGo.Proofs.Merge.Unique
import SchemaGo.Proofs.Merge.Located
import SchemaGo.Proofs.Run.Check
import SchemaGo.Proofs.Run.Isolated
import SchemaGo.Proofs.Run.Order
import SchemaGo.Proofs.Run.Confined
import SchemaGo.Proofs.Go.Name
import SchemaGo.Proofs.Schema.Validate
import SchemaGo.Proofs.Query.Calls
import SchemaGo.Proofs.Query.Arguments
import SchemaGo.Proofs.Query.Rows
import SchemaGo.Proofs.Query.Scope
import SchemaGo.Proofs.Query.Binding
import SchemaGo.Proofs.Query.Imports
import SchemaGo.Proofs.Merge.Refused
import SchemaGo.Proofs.Go.ImportOrder
import SchemaGo.Proofs.Merge.BlockComments
import SchemaGo.Proofs.Merge.Recorded
import SchemaGo.Proofs.Go.Consumes
import SchemaGo.Proofs.Go.Inversion
import SchemaGo.Proofs.Go.Scanned
import SchemaGo.Proofs.Go.StructFields
import SchemaGo.Proofs.Go.Pieces
import SchemaGo.Proofs.Merge.Containers
import SchemaGo.Proofs.Text.Occurrences
import SchemaGo.Proofs.Go.Comments
import SchemaGo.Proofs.Go.CommentRuns
import SchemaGo.Proofs.Go.KeptComments
import SchemaGo.Proofs.Unicode.CaseMap
import SchemaGo.Proofs.Go.ColumnType
import SchemaGo.Proofs.Go.LiteralValue
import SchemaGo.Proofs.Merge.References
import SchemaGo.Proofs.Text.Cut
import SchemaGo.Proofs.Connection.Redacted
import SchemaGo.Proofs.Schema.FirstFault
import SchemaGo.Proofs.Go.Quoting
import SchemaGo.Proofs.Merge.ConstantValues
import SchemaGo.Proofs.Json.Spelling
import SchemaGo.Proofs.Json.Tokens
import SchemaGo.Proofs.Json.Objects
import SchemaGo.Proofs.Schema.Document
import SchemaGo.Proofs.Go.Identifiers
