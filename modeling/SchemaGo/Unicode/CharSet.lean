/-!
Sets of characters, and maps on them, given by tables.

A set lists the ascending code points at which membership changes, so a code point is in it
when an odd number of them lies at or below it. A map lists runs of code points that are all
moved by the same distance.
-/

namespace SchemaGo.Unicode

/-- How many of the ascending `bounds` are at most `n`, known to lie between `lo` and `hi`. -/
def rank (bounds : Array Nat) (n : Nat) : Nat → Nat → Nat → Nat
  | 0, lo, _ => lo
  | steps + 1, lo, hi =>
    if lo < hi then
      let mid := (lo + hi) / 2
      if bounds.getD mid 0 ≤ n then rank bounds n steps (mid + 1) hi
      else rank bounds n steps lo mid
    else lo

/-- The characters beyond ASCII of a property, by the code points where membership changes. -/
structure CharSet where
  bounds : Array Nat

def CharSet.contains (s : CharSet) (c : Char) : Bool :=
  rank s.bounds c.toNat s.bounds.size 0 s.bounds.size % 2 == 1

/-- Every `step`th code point from `first` to `last` is moved by `shift`. -/
structure Run where
  first : Nat
  last : Nat
  step : Nat
  shift : Int

def Run.covers (r : Run) (n : Nat) : Bool :=
  r.first ≤ n && n ≤ r.last && (n - r.first) % r.step == 0

/-- A map of characters to short texts; what no entry covers stays as it is. -/
structure CharMap where
  runs : List Run
  texts : List (Nat × List Char)

def CharMap.apply (m : CharMap) (c : Char) : List Char :=
  match m.texts.find? (·.1 == c.toNat) with
  | some (_, cs) => cs
  | none =>
    match m.runs.find? (·.covers c.toNat) with
    | some r => [Char.ofNat (c.toNat + r.shift).toNat]
    | none => [c]

end SchemaGo.Unicode
