import SchemaGo.Decimal.Shortest
import SchemaGo.Json.Scan

/-!
JSON numbers. A number with a point or an exponent, and an integer that does not fit into 64
bits, is a double. Its significand is cut off where it would exceed 64 bits.
-/

namespace SchemaGo.Json

inductive Number
  | natural (n : Nat)
  /-- `-n`, where `n` is not zero. -/
  | negative (n : Nat)
  /-- A double, by its shortest text. -/
  | float (text : String)
deriving DecidableEq, Repr

def Number.found : Number → Found
  | natural n => .integer n
  | negative n => .integer (-n)
  | float s => .float s

/-- Appends digits to `n` as long as it stays below `2 ^ 64`, and tells how many are left. -/
def appendDigits (n : Nat) : List Char → Nat × Nat
  | [] => (n, 0)
  | c :: cs =>
    let m := n * 10 + (c.toNat - 48)
    if m < Nat.pow 2 64 then appendDigits m cs else (n, cs.length + 1)

/-- `x * 10 ^ e`, in at most `n + 1` steps; none if it is too large. -/
def scaleFloat : Nat → Float → Int → Option Float
  | 0, _, _ => some 0
  | n + 1, x, e =>
    if e.natAbs ≤ 308 then
      let power := Float.ofScientific 1 false e.natAbs
      if e ≥ 0 then
        let y := x * power
        if y.isInf then none else some y
      else some (x / power)
    else if x == 0 then some x
    else if e ≥ 0 then none
    else scaleFloat n (x / 1e308) (e + 308)

def float (positive : Bool) (significand : Nat) (e : Int) : Except Fault Number :=
  match scaleFloat 3 (Float.ofNat significand) e with
  | some x => .ok (.float (Decimal.render (if positive then x else -x)))
  | none => .error .numberOutOfRange

/-- The digits at the front, of which there must be one. -/
def readDigits (cs : List Char) : Except Fault (List Char × List Char) :=
  match cs with
  | [] => .error (.ended .value)
  | c :: _ => if c.isDigit then .ok (cs.span Char.isDigit) else .error .badNumber

/-- A number from its exponent on, behind the letter. -/
def readExponent (positive : Bool) (significand : Nat) (e : Int) (cs : List Char) :
    Except Fault (Number × List Char) := do
  let (up, cs) := match cs with
    | '+' :: cs => (true, cs)
    | '-' :: cs => (false, cs)
    | cs => (true, cs)
  let (digits, rest) ← readDigits cs
  let n : Nat := digits.foldl (fun n c => n * 10 + (c.toNat - 48)) 0
  let e' : Int := if up then e + (n : Int) else e - (n : Int)
  if n < Nat.pow 2 31 then return (← float positive significand e', rest)
  else if up && significand != 0 then .error .numberOutOfRange
  else return (← float positive 0 0, rest)

/-- A number from its point or its exponent on, where it has one. -/
def readFraction (positive : Bool) (significand : Nat) (e : Int) (cs : List Char) :
    Except Fault (Number × List Char) := do
  let (significand, e, rest) ← match cs with
    | '.' :: cs => do
      let (digits, rest) ← readDigits cs
      let (m, unused) := appendDigits significand digits
      pure (m, e - (digits.length - unused : Nat), rest)
    | cs => pure (significand, e, cs)
  match rest with
  | 'e' :: rest | 'E' :: rest => readExponent positive significand e rest
  | rest => return (← float positive significand e, rest)

/-- A number without its sign. -/
def readMagnitude (positive : Bool) (cs : List Char) : Except Fault (Number × List Char) := do
  let (digits, rest) ← readDigits cs
  if digits.length > 1 ∧ digits.head? = some '0' then .error .badNumber
  else
    let (n, unused) := appendDigits 0 digits
    let whole := unused = 0 ∧ ¬ rest.head?.any (fun c => c == '.' || c == 'e' || c == 'E')
    if whole ∧ positive then return (.natural n, rest)
    else if whole ∧ 0 < n ∧ n ≤ Nat.pow 2 63 then return (.negative n, rest)
    else readFraction positive n unused rest

/-- A number whose sign or first digit is next. -/
def readNumber : Decoder Number := fun cs =>
  match cs with
  | '-' :: cs => readMagnitude false cs
  | cs => readMagnitude true cs

end SchemaGo.Json
