import SchemaGo.Unicode.CaseMap
import SchemaGo.Unicode.Letter

/-!
The words of an identifier, and identifiers made of words in three styles. Words are parted by
characters that are neither letters nor digits, and where the case says so: behind a lower
case letter before an upper case one, and before the last of several upper case letters if a
lower case one follows, as in `HTTPServer`.
-/

namespace SchemaGo.Naming

open Unicode

/-- The case of the last letter of a word that has one. -/
inductive Case
  | unknown
  | lower
  | upper
deriving DecidableEq, Repr

def Case.after (k : Case) (c : Char) : Case :=
  if isLowercase c then .lower else if isUppercase c then .upper else k

/-- The words of a run of letters and digits, where `word` holds what has been read of the
first one, last character first. -/
def wordsOfRun (k : Case) (word : List Char) : List Char → List (List Char)
  | [] => if word.isEmpty then [] else [word.reverse]
  | [c] => [(c :: word).reverse]
  | c :: d :: cs =>
    if k.after c = .lower && isUppercase d then
      (c :: word).reverse :: wordsOfRun .unknown [] (d :: cs)
    else if k = .upper && isUppercase c && isLowercase d then
      word.reverse :: wordsOfRun .unknown [c] (d :: cs)
    else wordsOfRun (k.after c) (c :: word) (d :: cs)

/-- The runs of letters and digits; some may be empty. -/
def runs (cs : List Char) : List (List Char) := cs.splitOnP (!isAlphanumeric ·)

def words (s : String) : List (List Char) := (runs s.toList).flatMap (wordsOfRun .unknown [])

/-- A word in lower case. A sigma in the last place takes its final form. -/
def lowerWord : List Char → List Char
  | [] => []
  | ['Σ'] => ['ς']
  | c :: cs => toLower c ++ lowerWord cs

def capitalized : List Char → List Char
  | [] => []
  | c :: cs => toUpper c ++ lowerWord cs

def pascalCase (s : String) : String := String.ofList ((words s).flatMap capitalized)

def snakeCase (s : String) : String :=
  String.ofList (List.intercalate ['_'] ((words s).map lowerWord))

def camelCase (s : String) : String :=
  match words s with
  | [] => ""
  | w :: ws => String.ofList (lowerWord w ++ ws.flatMap capitalized)

end SchemaGo.Naming
