/-!
The fewest digits that read back as a given double. A double is `m * 2 ^ q`; the reals that
round to it reach half way to its neighbours, ends included when `m` is even. For one digit,
two digits and so on, the two decimals next to the double are tried, and the nearer one of
those that read back is taken.
-/

namespace SchemaGo.Decimal

/-- A positive rational. -/
structure Ratio where
  num : Nat
  den : Nat

/-- `n * b ^ e`. -/
def scaled (n b : Nat) (e : Int) : Ratio :=
  if e ≥ 0 then ⟨n * b.pow e.toNat, 1⟩ else ⟨n, b.pow (-e).toNat⟩

def Ratio.le (x y : Ratio) : Bool := x.num * y.den ≤ y.num * x.den

def Ratio.lt (x y : Ratio) : Bool := x.num * y.den < y.num * x.den

/-- How far `x` and `y` are apart, as a multiple of `1 / (x.den * y.den)`. -/
def Ratio.apart (x y : Ratio) : Nat :=
  (x.num * y.den - y.num * x.den) + (y.num * x.den - x.num * y.den)

/-- A double and the ends of the reals that round to it. -/
structure Cell where
  low : Ratio
  value : Ratio
  high : Ratio
  closed : Bool

/-- The cell of a positive finite double, from its bits. -/
def cell (bits : Nat) : Cell :=
  let fraction := bits % Nat.pow 2 52
  let exponent := bits / Nat.pow 2 52 % Nat.pow 2 11
  let m := if exponent = 0 then fraction else Nat.pow 2 52 + fraction
  let q : Int := (max exponent 1 : Nat) - 1075
  let below := if fraction = 0 ∧ exponent > 1 then 1 else 2
  { low := scaled (4 * m - below) 2 (q - 2)
    value := scaled (4 * m) 2 (q - 2)
    high := scaled (4 * m + 2) 2 (q - 2)
    closed := m % 2 = 0 }

def Cell.contains (c : Cell) (x : Ratio) : Bool :=
  if c.closed then c.low.le x && x.le c.high else c.low.lt x && x.lt c.high

/-- The exponent of the first digit of `x`. -/
def leadingExponent (x : Ratio) : Int :=
  ((x.num * Nat.pow 10 400 / x.den).repr.length : Int) - 401

/-- Digits and the exponent of the last one. -/
structure Digits where
  digits : Nat
  exponent : Int

/-- The better of the two decimals next to the double with last digit at `e`, if one reads
back. -/
def Cell.nearest? (c : Cell) (e : Int) : Option Digits :=
  let unit := scaled 1 10 e
  let below := c.value.num * unit.den / (c.value.den * unit.num)
  let at_ := fun n => scaled n 10 e
  match c.contains (at_ below), c.contains (at_ (below + 1)) with
  | true, true =>
    let isAbove := (at_ (below + 1)).apart c.value < (at_ below).apart c.value
    some ⟨if isAbove then below + 1 else below, e⟩
  | true, false => some ⟨below, e⟩
  | false, true => some ⟨below + 1, e⟩
  | false, false => none

/-- The shortest digits of a positive finite double. Seventeen always suffice. -/
def shortest (x : Float) : Digits :=
  let c := cell x.toBits.toNat
  let top := leadingExponent c.value
  ((List.range 17).findSome? fun n : Nat => c.nearest? (top - n)).getD ⟨0, 0⟩

/-- The digits without zeros at the end, of which at most `n` are dropped. -/
def Digits.stripped (d : Digits) : Nat → Digits
  | 0 => d
  | n + 1 => if d.digits % 10 = 0 then stripped ⟨d.digits / 10, d.exponent + 1⟩ n else d

/-- Text with a point: positional where the first digit stands between the places `-5` and
`15`, and otherwise with a signed exponent. -/
def render (x : Float) : String :=
  let sign := if x.toBits.toNat ≥ Nat.pow 2 63 then "-" else ""
  if x == 0 then sign ++ "0.0"
  else
    let d := (shortest x.abs).stripped 17
    let text := d.digits.repr
    let top : Int := d.exponent + text.length - 1
    let zeros := fun n => String.ofList (List.replicate n '0')
    let first := fun n => String.ofList (text.toList.take n)
    let rest := fun n => String.ofList (text.toList.drop n)
    sign ++
      if -5 ≤ top ∧ top ≤ 15 then
        if d.exponent ≥ 0 then text ++ zeros d.exponent.toNat ++ ".0"
        else if top ≥ 0 then first (top.toNat + 1) ++ "." ++ rest (top.toNat + 1)
        else "0." ++ zeros ((-top).toNat - 1) ++ text
      else
        (if text.length = 1 then text else first 1 ++ "." ++ rest 1) ++ "e" ++
          (if top < 0 then "-" else "+") ++ top.natAbs.repr

end SchemaGo.Decimal
