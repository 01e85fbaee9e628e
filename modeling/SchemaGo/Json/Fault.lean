/-!
What can be wrong with a JSON document, by itself or as the form of a given record.
-/

namespace SchemaGo.Json

/-- The construct in which a document ends too soon. -/
inductive Unfinished
  | value
  | string
  | list
  | object
deriving DecidableEq, Repr

/-- A value that is not of the kind wanted. -/
inductive Found
  | null
  | boolean (b : Bool)
  | integer (i : Int)
  | float (text : String)
  | string (quoted : String)
  | sequence
  | map
deriving DecidableEq, Repr

inductive Fault
  | ended (what : Unfinished)
  | expectedValue
  | expectedWord
  | expectedColon
  | expectedCommaOrBrace
  | expectedCommaOrBracket
  | keyNotString
  | trailingComma
  | trailingCharacters
  | badNumber
  | badEscape
  | hexEscapeEnds
  | loneSurrogate
  | controlCharacter
  | numberOutOfRange
  | wrongType (found : Found) (want : String)
  | wrongValue (found : Found) (want : String)
  | wrongLength (length : Nat) (want : String)
  | missing (field : String)
  | duplicate (field : String)
  | unknownVariant (name : String) (known : List String)
deriving DecidableEq, Repr

def Unfinished.text : Unfinished → String
  | value => "a value"
  | string => "a string"
  | list => "a list"
  | object => "an object"

def quoted (s : String) : String := "\x60" ++ s ++ "\x60"

def Found.text : Found → String
  | null => "null"
  | boolean b => "boolean " ++ quoted (if b then "true" else "false")
  | integer i => "integer " ++ quoted (toString i)
  | float s => "floating point " ++ quoted s
  | string s => "string " ++ s
  | sequence => "sequence"
  | map => "map"

def Fault.message : Fault → String
  | ended what => "EOF while parsing " ++ what.text
  | expectedValue => "expected value"
  | expectedWord => "expected ident"
  | expectedColon => "expected " ++ quoted ":"
  | expectedCommaOrBrace => "expected " ++ quoted "," ++ " or " ++ quoted "\x7d"
  | expectedCommaOrBracket => "expected " ++ quoted "," ++ " or " ++ quoted "]"
  | keyNotString => "key must be a string"
  | trailingComma => "trailing comma"
  | trailingCharacters => "trailing characters"
  | badNumber => "invalid number"
  | badEscape => "invalid escape"
  | hexEscapeEnds => "unexpected end of hex escape"
  | loneSurrogate => "lone leading surrogate in hex escape"
  | controlCharacter =>
    "control character (\\u0000-\\u001F) found while parsing a string"
  | numberOutOfRange => "number out of range"
  | wrongType found want => "invalid type: " ++ found.text ++ ", expected " ++ want
  | wrongValue found want => "invalid value: " ++ found.text ++ ", expected " ++ want
  | wrongLength n want => "invalid length " ++ n.repr ++ ", expected " ++ want
  | missing field => "missing field " ++ quoted field
  | duplicate field => "duplicate field " ++ quoted field
  | unknownVariant name known =>
    "unknown variant " ++ quoted name ++ ", expected one of " ++
      String.intercalate ", " (known.map quoted)

end SchemaGo.Json
