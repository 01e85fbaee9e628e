import SchemaGo.Text.Blank
import SchemaGo.Text.Cut

/-!
How to reach the database, from the variables of the environment.
-/

namespace SchemaGo.Connection

open Text

inductive Settings
  | url (url : String)
  | params (host : String) (portNumber : UInt16) (database user password : String)
deriving DecidableEq, Repr

inductive SettingsError
  | invalidPortNumber
  | missing (name : String)
deriving DecidableEq, Repr

def SettingsError.message : SettingsError → String
  | invalidPortNumber => "DB_PORT must be a valid port number"
  | missing n => n ++ " environment variable is required"

/-- The value of a digit. -/
def digit? (c : Char) : Option Nat :=
  if '0' ≤ c ∧ c ≤ '9' then some (c.toNat - '0'.toNat) else none

/-- Reads digits behind a number. -/
def readDigits (n : Nat) : List Char → Option Nat
  | [] => some n
  | c :: cs => (digit? c).bind fun d => readDigits (10 * n + d) cs

/-- Reads a number of 16 bits in decimal. It may have a plus sign. -/
def portNumber? (s : String) : Option UInt16 :=
  let digits := match s.toList with
    | '+' :: cs => cs
    | cs => cs
  if digits.isEmpty then none
  else (readDigits 0 digits).bind fun n => if n < UInt16.size then some (.ofNat n) else none

namespace Settings

/-- The settings, where `lookup` gives the values of the variables. A URL that is not blank
stands for all others. -/
def ofLookup (lookup : String → Option String) : Except SettingsError Settings :=
  match (lookup "DATABASE_URL").filter fun u => !(trim u.toList).isEmpty with
  | some u => .ok (.url u)
  | none => do
    let require := fun v => match lookup v with
      | some value => .ok value
      | none => .error (SettingsError.missing v)
    let host := (lookup "DB_HOST").getD "localhost"
    let portNumber ← match portNumber? ((lookup "DB_PORT").getD "5432") with
      | some n => .ok n
      | none => .error .invalidPortNumber
    return .params host portNumber (← require "DB_NAME") (← require "DB_USER")
      (← require "DB_PASSWORD")

/-- What stands for a password where it must not be seen. -/
def mask : String := "***"

def paramsText (host : String) (portNumber : UInt16) (database user password : String) : String :=
  "host=" ++ host ++ " port=" ++ portNumber.toNat.repr ++ " dbname=" ++ database ++
    " user=" ++ user ++ " password=" ++ password

/-- The text that a client connects with. -/
def text : Settings → String
  | url u => u
  | params h p d u pw => paramsText h p d u pw

/-- A URL with its password masked, if it has one: from the first colon of the credentials to
the last at sign. -/
def redactUrl (url : List Char) : List Char :=
  match cut? [':', '/', '/'] url with
  | none => url
  | some (scheme, rest) =>
    match cutLast? '@' rest with
    | none => url
    | some (credentials, host) =>
      match cut? [':'] credentials with
      | none => url
      | some (user, _) => scheme ++ "://".toList ++ user ++ ':' :: mask.toList ++ '@' :: host

/-- The text without the password. -/
def redacted : Settings → String
  | url u => String.ofList (redactUrl u.toList)
  | params h p d u _ => paramsText h p d u mask

end Settings

end SchemaGo.Connection
