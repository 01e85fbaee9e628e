import SchemaGo.Go.Lexeme

/-!
Readers of lexemes. Blanks and comments are passed over in front of a lexeme, never behind
it, so what a reader leaves over starts right behind the last lexeme it took. A line break is
passed over where the construct at hand needs more, and ends it where it is complete.
-/

namespace SchemaGo.Go.Grammar

abbrev Reader := StateT (List Lexeme) Option

/-- What ends a construct that is complete. -/
inductive Tail
  /-- Not a line break: the construct stands in brackets or in the head of a statement. -/
  | closed
  | line
  /-- A line break or the next case: the construct stands in the body of a case. -/
  | clause
deriving DecidableEq, Repr

def isCaseWord (w : String) : Bool := w == "case" || w == "default"

/-- The next lexeme that counts, and the lexemes behind it. -/
def next (tail : Tail) : List Lexeme → Option (Lexeme × List Lexeme)
  | [] => none
  | .blank _ :: ts => next tail ts
  | .comment _ :: ts => next tail ts
  | .newline :: ts => if tail = .closed then next tail ts else none
  | .word w :: ts => if tail = .clause && isCaseWord w then none else some (.word w, ts)
  | t :: ts => some (t, ts)

/-- What is left of `ts` behind the marks `cs`, side by side. -/
def dropMarks : List Char → List Lexeme → Option (List Lexeme)
  | [], ts => some ts
  | c :: cs, .mark d :: ts => if c = d then dropMarks cs ts else none
  | _ :: _, _ => none

/-- The lexemes from the next one that counts. -/
def upcoming (tail : Tail) (ts : List Lexeme) : List Lexeme :=
  match next tail ts with
  | some (t, rest) => t :: rest
  | none => []

namespace Reader

def peek (tail : Tail) : Reader (Option Lexeme) := fun ts =>
  some ((next tail ts).map (·.1), ts)

def advance : Reader Lexeme := fun ts => next .closed ts

/-- Whether `op` comes next. -/
def sees (tail : Tail) (op : String) : Reader Bool := fun ts =>
  some ((dropMarks op.toList (upcoming tail ts)).isSome, ts)

/-- Takes `op`, if it comes next. -/
def takes (tail : Tail) (op : String) : Reader Bool := fun ts =>
  match dropMarks op.toList (upcoming tail ts) with
  | some rest => some (true, rest)
  | none => some (false, ts)

def mark (op : String) : Reader Unit := fun ts =>
  (dropMarks op.toList (upcoming .closed ts)).map ((), ·)

def seesWord (tail : Tail) (w : String) : Reader Bool := fun ts =>
  some ((next tail ts).any (·.1 == .word w), ts)

def takesWord (tail : Tail) (w : String) : Reader Bool := fun ts =>
  match next tail ts with
  | some (.word v, rest) => if v = w then some (true, rest) else some (false, ts)
  | _ => some (false, ts)

def word : Reader String := fun ts =>
  match next .closed ts with
  | some (.word w, rest) => some (w, rest)
  | _ => none

def check (b : Bool) : Reader Unit := fun ts => if b then some ((), ts) else none

/-- The longest of the operators `ops` that comes next. It is not taken. -/
def operator (tail : Tail) (ops : List String) : Reader (Option String) := fun ts =>
  let front := upcoming tail ts
  let here := fun op => (dropMarks op.toList front).isSome
  some ([3, 2, 1].findSome? fun n => ops.find? fun op => op.length == n && here op, ts)

/-- Runs `item` at most `n` times, and not again once it has declined. -/
def manyUpTo (item : Reader (Option α)) : Nat → Reader (List α)
  | 0 => pure []
  | n + 1 => do
    match ← item with
    | some a => return a :: (← manyUpTo item n)
    | none => return []

/-- Runs `item` until it declines. -/
def many (item : Reader (Option α)) : Reader (List α) := fun ts =>
  manyUpTo item ts.length ts

/-- One `item` or more, parted by the mark `sep`. -/
def sepList (tail : Tail) (sep : String) (item : Reader α) : Reader (List α) := do
  let first ← item
  let others ← many do
    if ← takes tail sep then return some (← item) else return none
  return first :: others

/-- Items up to the mark `close`, parted by commas, and whether a comma stands last. -/
def commaList (close : String) (item : Reader α) : Reader (List α × Bool) := do
  let cells ← many do
    if ← sees .closed close then return none
    let a ← item
    return some (a, ← takes .closed ",")
  mark close
  check (cells.dropLast.all (·.2))
  return (cells.map (·.1), cells.getLast?.any (·.2))

/-- As `commaList`, where a comma may also stand alone. -/
def looseList (close : String) (item : Reader α) : Reader Unit := do
  if ← takes .closed "," then mark close else discard (commaList close item)

/-- Takes a line break, a semicolon or a null character. -/
def terminator? : Reader Bool := fun ts =>
  match ts.dropWhile (fun | .blank _ | .comment _ => true | _ => false) with
  | .newline :: rest => some (true, rest)
  | .mark c :: rest => if c = ';' ∨ c = '\x00' then some (true, rest) else some (false, ts)
  | _ => some (false, ts)

def terminator : Reader Unit := do check (← terminator?)

/-- Items up to the mark `close`, each with a terminator; the last may go without. -/
def lines (close : String) (item : Reader α) : Reader (List α) := do
  let cells ← many do
    if ← sees .closed close then return none
    let a ← item
    return some (a, ← terminator?)
  mark close
  check (cells.dropLast.all (·.2))
  return cells.map (·.1)

/-- Items up to the mark `close`, each with a terminator. -/
def fullLines (close : String) (item : Reader α) : Reader (List α) := do
  let items ← many do
    if ← sees .closed close then return none
    let a ← item
    terminator
    return some a
  mark close
  return items

/-- What `r` reads, and its source text. -/
def spelled (r : Reader α) : Reader (α × String) := fun ts => do
  let start := upcoming .closed ts
  let (a, rest) ← r start
  return ((a, Lexeme.spell (start.take (start.length - rest.length))), rest)

end Reader

end SchemaGo.Go.Grammar
