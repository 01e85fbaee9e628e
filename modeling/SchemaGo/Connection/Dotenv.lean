import SchemaGo.Text.Blank
import SchemaGo.Unicode.Letter

/-!
Files with variables for the environment. A line gives one variable; quotes and escapes may
carry it over several lines of the file. Variables that are set already keep their values.
-/

namespace SchemaGo.Connection

open Text

/-- The variables that are set, with their values. -/
abbrev Environment := List (String × String)

def Environment.get? (e : Environment) (name : String) : Option String := e.lookup name

/-- Sets a variable that is not set yet. -/
def Environment.add (e : Environment) (name value : String) : Environment :=
  if (e.get? name).isSome then e else e ++ [(name, value)]

theorem Environment.get?_add_self (e : Environment) (name value : String) :
    (e.add name value).get? name = some ((e.get? name).getD value) := by
  unfold add
  cases h : e.get? name with
  | some v => simp [h]
  | none =>
    have hn : List.lookup name e = none := h
    simp [get?, List.lookup_append, hn]

theorem Environment.get?_add_of_ne (e : Environment) {name other : String} (value : String)
    (h : other ≠ name) : (e.add name value).get? other = e.get? other := by
  unfold add
  split
  · rfl
  · simp [get?, List.lookup_append, List.lookup_cons, beq_eq_false_iff_ne.2 h]

/-- A line that cannot be read, and the place in it. -/
structure LineFault where
  line : String
  index : Nat
deriving DecidableEq, Repr

def LineFault.message (f : LineFault) : String :=
  "Error parsing line: '" ++ f.line ++ "', error at line index: " ++ f.index.repr

def byteSize (cs : List Char) : Nat := (String.ofList cs).utf8ByteSize

/-! ### Lines -/

/-- Where a line stands between two characters. -/
inductive LineState
  | plain
  | blank
  | escaped
  | weak
  | weakEscaped
  | strong
  | strongEscaped
deriving DecidableEq, Repr

namespace LineState

/-- What a character outside quotes opens. -/
def opens (c : Char) : LineState :=
  match c with
  | '\\' => escaped
  | '"' => weak
  | '\'' => strong
  | _ => plain

def after (s : LineState) (c : Char) : LineState :=
  match s with
  | plain => if isBlank c && c != '\n' && c != '\r' then blank else opens c
  | blank => opens c
  | escaped => plain
  | weak => if c = '\\' then weakEscaped else if c = '"' then plain else weak
  | weakEscaped => weak
  | strong => if c = '\\' then strongEscaped else if c = '\'' then plain else strong
  | strongEscaped => strong

end LineState

inductive LineEnd
  /-- A comment starts behind the characters `before`. -/
  | comment (before : List Char)
  | state (state : LineState)
deriving DecidableEq, Repr

/-- Reads to the end of the line, or to a comment. A comment stands behind a blank. -/
def scanLine (s : LineState) : List Char → LineEnd
  | [] => .state s
  | c :: cs =>
    if s = .blank && c = '#' then .comment []
    else
      match scanLine (s.after c) cs with
      | .comment before => .comment (c :: before)
      | e => e

/-- The lines of a text, each with the line feed that ends it. -/
def physicalLines : List Char → List (List Char)
  | [] => []
  | c :: cs =>
    if c = '\n' then [c] :: physicalLines cs
    else
      match physicalLines cs with
      | [] => [[c]]
      | l :: ls => (c :: l) :: ls

/-- A line without the line feed at its end, and without the carriage return before that. -/
def chomp (line : List Char) : List Char :=
  match line.reverse with
  | '\n' :: '\r' :: cs => cs.reverse
  | '\n' :: cs => cs.reverse
  | _ => line

/-- Joins lines that end inside quotes, or behind a backslash, with the next one; `held` is
what has been joined so far, and ends in the state `s`. Comments are dropped. -/
def logicalLines (s : LineState) (held : List Char) :
    List (List Char) → List (Except LineFault (List Char))
  | [] =>
    if s = .plain then [] else [.error ⟨String.ofList held, byteSize held⟩]
  | l :: ls =>
    if (trimStart (held ++ l)).head? = some '#' then .ok [] :: logicalLines .plain [] ls
    else
      match scanLine s l with
      | .comment before => .ok (held ++ before) :: logicalLines .plain [] ls
      | .state .plain => .ok (chomp (held ++ l)) :: logicalLines .plain [] ls
      | .state s => logicalLines s (held ++ l) ls

/-! ### Values -/

/-- Where a value stands between two characters. The flag says whether double quotes are
open. -/
inductive ValueState
  | text (quoted : Bool)
  | escaped (quoted : Bool)
  | strong
  /-- Behind a dollar sign and the characters `name`. -/
  | name (quoted : Bool) (name : List Char)
  /-- Behind a dollar sign with a brace, and the characters `name`. -/
  | braced (quoted : Bool) (name : List Char)
  /-- Behind a blank. Only a comment may follow. -/
  | ended
deriving DecidableEq, Repr

/-- What an escape stands for. -/
def unescape? (c : Char) : Option Char :=
  match c with
  | '\\' | '\'' | '"' | '$' | ' ' => some c
  | 'n' => some '\n'
  | _ => none

/-- The value that is put for the name of a variable. -/
def substitute (e : Environment) (name : List Char) : List Char :=
  ((e.get? (String.ofList name)).getD "").toList

inductive ValueStep
  /-- The state behind a character, and what is added to the value. -/
  | go (state : ValueState) (added : List Char)
  | comment
  | fail
deriving DecidableEq, Repr

/-- Reads a character that stands in no escape and no name. -/
def textStep (quoted : Bool) (c : Char) : ValueStep :=
  match c with
  | '$' => .go (.name quoted []) []
  | '\\' => .go (.escaped quoted) []
  | '"' => .go (.text !quoted) []
  | '\'' => if quoted then .go (.text quoted) [c] else .go .strong []
  | ' ' | '\t' => if quoted then .go (.text quoted) [c] else .go .ended []
  | c => .go (.text quoted) [c]

def valueStep (e : Environment) (s : ValueState) (c : Char) : ValueStep :=
  match s with
  | .ended =>
    if c = ' ' || c = '\t' then .go .ended [] else if c = '#' then .comment else .fail
  | .escaped quoted =>
    match unescape? c with
    | some d => .go (.text quoted) [d]
    | none => .fail
  | .strong => if c = '\'' then .go (.text false) [] else .go .strong [c]
  | .name quoted n =>
    if Unicode.isAlphanumeric c then .go (.name quoted (n ++ [c])) []
    else if c = '{' && n.isEmpty then .go (.braced quoted []) []
    else if c = '$' then .go (.name quoted []) (substitute e n)
    else .go (.text quoted) (substitute e n ++ [c])
  | .braced quoted n =>
    if c = '}' then .go (.text quoted) (substitute e n) else .go (.braced quoted (n ++ [c])) []
  | .text quoted => textStep quoted c

/-- What a value may end in, and what is added to it there. -/
def valueEnd? (e : Environment) : ValueState → Option (List Char)
  | .text false | .escaped false | .ended => some []
  | .name false n => some (substitute e n)
  | _ => none

/-- Reads the rest of a value, which starts at character `i` of the whole. -/
def valueFrom (e : Environment) (whole : List Char) (i : Nat) (s : ValueState) :
    List Char → Except LineFault (List Char)
  | [] =>
    match valueEnd? e s with
    | some added => .ok added
    | none => .error ⟨String.ofList whole, byteSize whole - 1⟩
  | c :: cs =>
    match valueStep e s c with
    | .go s added => (valueFrom e whole (i + 1) s cs).map (added ++ ·)
    | .comment => .ok []
    | .fail => .error ⟨String.ofList whole, i⟩

def readValue (e : Environment) (cs : List Char) : Except LineFault (List Char) :=
  valueFrom e cs 0 (.text false) cs

/-! ### Variables -/

def isKeyStart (c : Char) : Bool := c.isAlpha || c = '_'

def isKeyChar (c : Char) : Bool := c.isAlphanum || c = '_' || c = '.'

/-- Fails where `rest` begins. Blanks at the end of the line do not count. -/
def failAt (line rest : List Char) : LineFault :=
  ⟨String.ofList line, byteSize (trimEnd line) - byteSize rest⟩

/-- Reads a key, and the blanks behind it. -/
def readKey (line cs : List Char) : Except LineFault (List Char × List Char) :=
  if cs.head?.any isKeyStart then .ok (cs.takeWhile isKeyChar, trimStart (cs.dropWhile isKeyChar))
  else .error (failAt line cs)

def readEqual (line : List Char) : List Char → Except LineFault (List Char)
  | '=' :: cs => .ok cs
  | cs => .error (failAt line cs)

/-- Reads a key and the sign behind it. The word `export` may stand before the key. -/
def readName (line cs : List Char) : Except LineFault (List Char × List Char) := do
  let (key, rest) ← readKey line cs
  match readEqual line rest with
  | .ok rest => return (key, rest)
  | .error f =>
    if key = "export".toList then
      let (key, rest) ← readKey line rest
      return (key, ← readEqual line rest)
    else throw f

/-- The variable of a line, if the line has one. -/
def readLine (e : Environment) (line : List Char) :
    Except LineFault (Option (String × String)) := do
  let cs := trim line
  if cs.isEmpty || cs.head? = some '#' then return none
  else
    let (key, rest) ← readName line cs
    let value := trimStart rest
    if value.isEmpty || value.head? = some '#' then return some (String.ofList key, "")
    else return some (String.ofList key, String.ofList (← readValue e value))

/-- Sets the variables of the lines, up to the first that cannot be read. -/
def Environment.addLines (e : Environment) :
    List (Except LineFault (List Char)) → Except LineFault Unit × Environment
  | [] => (.ok (), e)
  | line :: lines =>
    match line.bind (readLine e) with
    | .error f => (.error f, e)
    | .ok none => e.addLines lines
    | .ok (some (name, value)) => (e.add name value).addLines lines

/-- The text without the mark of its encoding. -/
def withoutMark (cs : List Char) : List Char :=
  match cs with
  | '\uFEFF' :: cs => cs
  | cs => cs

/-- Sets the variables of a file. -/
def Environment.load (e : Environment) (file : String) : Except LineFault Unit × Environment :=
  e.addLines (logicalLines .plain [] (physicalLines (withoutMark file.toList)))

end SchemaGo.Connection
