import SchemaGo.Unicode.Printable

/-!
Text in double quotes, as messages show it. Quotes, backslashes and characters that cannot be
seen are escaped.
-/

namespace SchemaGo.Text

def hexDigit (n : Nat) : Char := "0123456789abcdef".toList.getD n '0'

/-- The last `k` hexadecimal digits of `n`. -/
def hexPadded : Nat → Nat → List Char
  | 0, _ => []
  | k + 1, n => hexPadded k (n / 16) ++ [hexDigit (n % 16)]

/-- The number of hexadecimal digits of `n`, one at least. -/
def hexWidth (n : Nat) : Nat := Nat.log2 n / 4 + 1

def quotedChar (c : Char) : List Char :=
  match c with
  | '\x00' => ['\\', '0']
  | '\t' => ['\\', 't']
  | '\r' => ['\\', 'r']
  | '\n' => ['\\', 'n']
  | '"' => ['\\', '"']
  | '\\' => ['\\', '\\']
  | c =>
    if Unicode.isPrintable c then [c]
    else
      "\\u".toList ++ '{' :: hexPadded (hexWidth c.toNat) c.toNat ++ ['}']

def quoted (s : String) : String :=
  String.ofList ('"' :: s.toList.flatMap quotedChar ++ ['"'])

end SchemaGo.Text
