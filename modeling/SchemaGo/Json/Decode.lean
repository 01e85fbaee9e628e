import SchemaGo.Json.Number
import SchemaGo.Text.Quoted

/-!
Readers of typed values. A fault is reported where the document first shows it, so the members
of a record are read in the order of the document. A record may also be written as the list of
its fields.
-/

namespace SchemaGo.Json

open Decoder

/-- Refuses the value that begins with `c`, which is next: a `want` is wanted. -/
def refuse (want : String) (c : Char) : Decoder α := do
  let found ← match c with
    | 'n' => do word "null".toList; pure Found.null
    | 't' => do word "true".toList; pure (Found.boolean true)
    | 'f' => do word "false".toList; pure (Found.boolean false)
    | '"' => do pure (Found.string (Text.quoted (← readString)))
    | '[' => pure Found.sequence
    | '{' => pure Found.map
    | c =>
      if c = '-' ∨ c.isDigit then do pure (← readNumber).found
      else fail .expectedValue
  fail (.wrongType found want)

def stringOf (want : String) : Decoder String := do
  match ← peekOr .value with
  | '"' => readString
  | c => refuse want c

def string : Decoder String := stringOf "a string"

def bool : Decoder Bool := do
  match ← peekOr .value with
  | 't' =>
    word "true".toList
    return true
  | 'f' =>
    word "false".toList
    return false
  | c => refuse "a boolean" c

/-- A natural number below `2 ^ 64`. -/
def nat : Decoder Nat := do
  let c ← peekOr .value
  if c = '-' ∨ c.isDigit then
    match ← readNumber with
    | .natural n => return n
    | .negative n => fail (.wrongValue (.integer (-n)) "usize")
    | .float s => fail (.wrongType (.float s) "usize")
  else refuse "usize" c

def null (want : String) : Decoder Unit := do
  match ← peekOr .value with
  | 'n' => word "null".toList
  | c => refuse want c

/-- A value, or `null`. -/
def nullable (d : Decoder α) : Decoder (Option α) := do
  match ← peek with
  | some 'n' =>
    word "null".toList
    return none
  | _ => return some (← d)

/-! ### Lists -/

/-- Whether a list has one more item; `first` says that none has been read. A comma in front of
it is taken. -/
def moreItems (first : Bool) : Decoder Bool := do
  match ← peekOr .list with
  | ']' => return false
  | c =>
    if first then return true
    else if c = ',' then
      take
      if (← peekOr .value) = ']' then fail .trailingComma
      return true
    else fail .expectedCommaOrBracket

/-- At most `n` items. -/
def itemsUpTo (d : Decoder α) : Nat → Bool → Decoder (List α)
  | 0, _ => fail (.ended .list)
  | n + 1, first => do
    if ← moreItems first then
      let a ← d
      return a :: (← itemsUpTo d n false)
    else
      take
      return []

def list (d : Decoder α) : Decoder (List α) := do
  match ← peekOr .value with
  | '[' =>
    take
    fun cs => itemsUpTo d (cs.length + 1) true cs
  | c => refuse "a sequence" c

/-! ### Records -/

/-- A field of a record that is collected in a `σ`. -/
structure RecordField (σ : Type) where
  name : String
  given : σ → Bool
  required : Bool
  /-- Reads the value into the record. -/
  read : σ → Decoder σ

/-- The form of a record: its fields in order, and the record that the values make. -/
structure Record (σ α : Type) where
  name : String
  fields : List (RecordField σ)
  start : σ
  build : σ → α

namespace Record

variable (r : Record σ α)

/-- The record, unless a field is missing. -/
def finish (s : σ) : Except Fault α :=
  match r.fields.find? fun f => f.required && !f.given s with
  | some f => .error (.missing f.name)
  | none => .ok (r.build s)

def want : String := "struct " ++ r.name

/-- Whether an object has one more member; `first` says that none has been read. A comma in
front of it is taken. -/
def moreMembers (first : Bool) : Decoder Bool := do
  match ← peekOr .object with
  | '}' => return false
  | c =>
    if first then
      if c = '"' then return true else fail .keyNotString
    else if c = ',' then
      take
      match ← peekOr .value with
      | '"' => return true
      | '}' => fail .trailingComma
      | _ => fail .keyNotString
    else fail .expectedCommaOrBrace

def colon : Decoder Unit := do
  if (← peekOr .object) = ':' then take else fail .expectedColon

/-- One member. Those of no known name are passed over. -/
def member (s : σ) : Decoder σ := do
  let key ← readString
  match r.fields.find? (·.name == key) with
  | some f =>
    if f.given s then fail (.duplicate f.name)
    colon
    f.read s
  | none =>
    colon
    skipValue
    return s

/-- At most `n` members. -/
def membersUpTo : Nat → Bool → σ → Decoder σ
  | 0, _, _ => fail (.ended .object)
  | n + 1, first, s => do
    if ← moreMembers first then membersUpTo n false (← r.member s)
    else
      take
      return s

/-- The number of fields, in words. -/
def size : String :=
  r.fields.length.repr ++ (if r.fields.length = 1 then " element" else " elements")

/-- The fields of a record written as a list, of which `n` have been read. Fields that are not
required may be left out at the end. -/
def fieldsFrom : List (RecordField σ) → Nat → σ → Decoder σ
  | [], _, s => return s
  | f :: fs, n, s => do
    if ← moreItems (n == 0) then fieldsFrom fs (n + 1) (← f.read s)
    else if f.required then fail (.wrongLength n (r.want ++ " with " ++ r.size))
    else fieldsFrom fs (n + 1) s

/-- The end of a record written as a list. -/
def endList : Decoder Unit := do
  match ← peekOr .list with
  | ']' => take
  | ',' =>
    take
    if (← peek) = some ']' then fail .trailingComma else fail .trailingCharacters
  | _ => fail .trailingCharacters

def decoder : Decoder α := do
  match ← peekOr .value with
  | '{' =>
    take
    let s ← fun cs => r.membersUpTo (cs.length + 1) true r.start cs
    fun cs => do return (← r.finish s, cs)
  | '[' =>
    take
    let s ← r.fieldsFrom r.fields 0 r.start
    endList
    fun cs => do return (← r.finish s, cs)
  | c => refuse r.want c

end Record

/-! ### Choices -/

/-- One of several names, or an object with such a name as its only key and `null` as value. -/
def choice (variants : List (String × α)) : Decoder α := do
  match ← peekOr .value with
  | '"' => variant "a string"
  | '{' =>
    take
    let a ← variant "variant identifier"
    Record.colon
    null "unit"
    match ← peekOr .object with
    | '}' =>
      take
      return a
    | _ => fail .expectedValue
  | _ => fail .expectedValue
where
  variant (want : String) : Decoder α := do
    let name ← stringOf want
    match variants.lookup name with
    | some a => return a
    | none => fail (.unknownVariant name (variants.map (·.1)))

/-- A whole document. -/
def decode (d : Decoder α) (text : String) : Except Fault α := do
  let (a, rest) ← d text.toList
  if (rest.dropWhile isSpace).isEmpty then .ok a else .error .trailingCharacters

end SchemaGo.Json
