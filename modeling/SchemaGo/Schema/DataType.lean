import SchemaGo.Text.Blank
import SchemaGo.Unicode.CaseMap

/-!
The catalog of database types, and how the raw name of a type is looked up in it. Case,
surrounding blanks, parenthesised modifiers and the schema `pg_catalog` do not matter.
-/

namespace SchemaGo.Schema

open Text

inductive DataType
  | smallInt
  | integer
  | bigInt
  | real
  | doublePrecision
  | boolean
  | text
  | binary
  | uuid
  | json
  | jsonBinary
  | date
  | time
  | timeTz
  | timestamp
  | timestampTz
  | interval
  | numeric
  | money
  | network
  | bitString
  | xml
  | geometric
  | fullText
  | oid
  /-- A type outside the catalog, by its name as written. -/
  | custom (name : String)
deriving DecidableEq, Repr

namespace DataType

/-! ### The catalog -/

def contains (part : List Char) : List Char → Bool
  | [] => part.isEmpty
  | c :: cs => part.isPrefixOf (c :: cs) || contains part cs

def exactNames : List (DataType × List String) :=
  [(text, ["character", "char", "varchar", "nvarchar", "nchar", "text", "citext", "name",
      "bpchar"]),
    (numeric, ["numeric", "decimal"]),
    (smallInt, ["smallint", "int2", "smallserial", "serial2"]),
    (integer, ["integer", "int", "int4", "serial", "serial4"]),
    (bigInt, ["bigint", "int8", "bigserial", "serial8"]),
    (real, ["real", "float4"]),
    (doublePrecision, ["double precision", "float8", "float"]),
    (boolean, ["boolean", "bool"]),
    (binary, ["bytea"]),
    (uuid, ["uuid"]),
    (json, ["json"]),
    (jsonBinary, ["jsonb"]),
    (date, ["date"]),
    (interval, ["interval"]),
    (money, ["money"]),
    (network, ["inet", "cidr", "macaddr", "macaddr8"]),
    (bitString, ["bit", "bit varying", "varbit"]),
    (xml, ["xml"]),
    (geometric, ["point", "line", "lseg", "box", "path", "polygon", "circle"]),
    (fullText, ["tsvector", "tsquery"]),
    (oid, ["oid"])]

/-- The type of the catalog with a normalised name, if there is one. The types of time are
told by how the name begins and by whether it mentions a time zone. -/
def builtin? (cs : List Char) : Option DataType :=
  let name := String.ofList cs
  let zoned := contains "with time zone".toList cs
  if "timestamp".toList.isPrefixOf cs then
    some (if name == "timestamptz" || zoned then timestampTz else timestamp)
  else if name == "time" || name == "timetz" || "time ".toList.isPrefixOf cs then
    some (if name == "timetz" || zoned then timeTz else time)
  else if "character ".toList.isPrefixOf cs then some text
  else (exactNames.find? (·.2.contains name)).map (·.1)

/-! ### Normalising names -/

/-- Drops array markers, `[]` or the word `array`, from the end of a name given last character
first, and tells whether there was one. At most `n` are dropped. -/
def dropMarkers : Nat → List Char → List Char × Bool
  | 0, rev => (rev, false)
  | n + 1, rev =>
    match rev with
    | ']' :: '[' :: rest => ((dropMarkers n (rest.dropWhile isBlank)).1, true)
    | _ =>
      if (rev.take 6).map Char.toLower = " array".toList.reverse then
        ((dropMarkers n ((rev.drop 6).dropWhile isBlank)).1, true)
      else (rev, false)

def stripArrayMarkers (cs : List Char) : List Char × Bool :=
  let (rev, isArray) := dropMarkers cs.length cs.reverse
  (rev.reverse, isArray)

/-- The characters outside parentheses; `depth` of them are open. A closing parenthesis too
many does no harm. -/
def outsideParens (depth : Nat) : List Char → List Char
  | [] => []
  | '(' :: cs => outsideParens (depth + 1) cs
  | ')' :: cs => outsideParens (depth - 1) cs
  | c :: cs => if depth = 0 then c :: outsideParens depth cs else outsideParens depth cs

/-- The words of a text with single spaces between them. -/
def singleSpaced (cs : List Char) : List Char :=
  List.intercalate [' '] ((cs.splitOnP isBlank).filter (!·.isEmpty))

/-- Drops `part` from the front as often as it stands there, at most `n` times. -/
def dropFront (part : List Char) : Nat → List Char → List Char
  | 0, cs => cs
  | n + 1, cs => if part.isPrefixOf cs then dropFront part n (cs.drop part.length) else cs

def normalized (cs : List Char) : List Char :=
  let lower := cs.flatMap Unicode.toLower
  singleSpaced (outsideParens 0 (dropFront "pg_catalog.".toList lower.length lower))

/-- The name of a type without schema and quotes. -/
def customName (cs : List Char) : String :=
  let name := trim (cs.reverse.takeWhile (· != '.')).reverse
  String.ofList ((name.dropWhile (· == '"')).reverse.dropWhile (· == '"')).reverse

/-- The type that a raw name stands for, and whether the name marks an array. The catalog's
own name for arrays of a type begins with an underscore. -/
def ofName (raw : String) : DataType × Bool :=
  let (base, isArray) := stripArrayMarkers (trim raw.toList)
  let name := normalized base
  match builtin? name with
  | some t => (t, isArray)
  | none =>
    let element := match name with
      | '_' :: rest => builtin? rest
      | _ => none
    match element with
    | some t => (t, true)
    | none => (custom (customName base), isArray)

end DataType

end SchemaGo.Schema
