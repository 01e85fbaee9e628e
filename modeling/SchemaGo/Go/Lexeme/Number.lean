/-!
Number literals: integers in four bases, floating-point numbers and imaginary numbers. Of the
readings of a text the longest counts. A reading is given by what it leaves over.
-/

namespace SchemaGo.Go.Number

def isHexDigit (c : Char) : Bool :=
  c.isDigit || ('a' ≤ c && c ≤ 'f') || ('A' ≤ c && c ≤ 'F')

def isOctalDigit (c : Char) : Bool := '0' ≤ c && c ≤ '7'

def isBinaryDigit (c : Char) : Bool := c == '0' || c == '1'

variable (p : Char → Bool)

/-- Drops digits; one underscore may stand before each. -/
def dropDigits : List Char → List Char
  | [] => []
  | c :: cs =>
    if p c then dropDigits cs
    else
      match c, cs with
      | '_', d :: ds => if p d then dropDigits ds else c :: cs
      | _, _ => c :: cs

/-- One digit or more, with single underscores between digits. -/
def digits : List Char → Option (List Char)
  | c :: cs => if p c then some (dropDigits p cs) else none
  | [] => none

/-- As `digits`, where an underscore may come first. -/
def markedDigits : List Char → Option (List Char)
  | '_' :: cs => digits p cs
  | cs => digits p cs

/-- One of the letters `letter` and its upper case. -/
def letter (l : Char) : List Char → Option (List Char)
  | c :: cs => if c == l || c == l.toUpper then some cs else none
  | [] => none

def zero : List Char → Option (List Char)
  | '0' :: cs => some cs
  | _ => none

def point : List Char → Option (List Char)
  | '.' :: cs => some cs
  | _ => none

/-- `r`, or nothing where `r` does not apply. -/
def optionally (r : List Char → Option (List Char)) (cs : List Char) : List Char :=
  (r cs).getD cs

/-- The letter `e` or `p`, a sign or none, and decimal digits. -/
def exponent (l : Char) (cs : List Char) : Option (List Char) := do
  match ← letter l cs with
  | '+' :: cs | '-' :: cs => digits Char.isDigit cs
  | cs => digits Char.isDigit cs

def decimal (cs : List Char) : Option (List Char) :=
  match cs with
  | '0' :: cs => some cs
  | c :: cs => if c.isDigit then some (optionally (markedDigits Char.isDigit) cs) else none
  | [] => none

def integers (cs : List Char) : List (List Char) :=
  let afterZero := zero cs
  [ decimal cs,
    afterZero.bind fun cs => markedDigits isOctalDigit (optionally (letter 'o') cs),
    afterZero.bind (letter 'b') |>.bind (markedDigits isBinaryDigit),
    afterZero.bind (letter 'x') |>.bind (markedDigits isHexDigit) ].reduceOption

def decimalFloats (cs : List Char) : List (List Char) :=
  let whole := digits Char.isDigit cs
  let tail := optionally (exponent 'e')
  [ whole.bind point |>.map fun cs => tail (optionally (digits Char.isDigit) cs),
    whole.bind (exponent 'e'),
    (point cs).bind (digits Char.isDigit) |>.map tail ].reduceOption

def hexFloats (cs : List Char) : List (List Char) :=
  let mantissa := (zero cs).bind (letter 'x')
  let whole := mantissa.bind (markedDigits isHexDigit)
  [ whole.bind point |>.bind fun cs => exponent 'p' (optionally (digits isHexDigit) cs),
    whole.bind (exponent 'p'),
    mantissa.bind point |>.bind (digits isHexDigit) |>.bind (exponent 'p') ].reduceOption

def imaginary : List Char → Option (List Char)
  | 'i' :: cs => some cs
  | _ => none

/-- What the readings of a number at the front of `cs` leave over. -/
def remainders (cs : List Char) : List (List Char) :=
  let reals := integers cs ++ decimalFloats cs ++ hexFloats cs
  reals ++ ((digits Char.isDigit cs).toList ++ reals).filterMap imaginary

/-- The characters that a number can be made of. -/
def isPart (c : Char) : Bool :=
  c.isAlphanum || c == '_' || c == '.' || c == '+' || c == '-'

/-- The length of the number at the front of `cs`, zero if there is none. -/
def length (cs : List Char) : Nat :=
  let reach := cs.takeWhile isPart
  ((remainders reach).map fun rest => reach.length - rest.length).foldl max 0

end SchemaGo.Go.Number
