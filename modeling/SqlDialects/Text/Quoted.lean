import SqlDialects.Text.InvisibleTable

/-!
# Text in quotation marks

Error messages and row reports quote names and values so that every character can be seen: quotes
and backslashes take a backslash, the usual controls have letters, and whatever cannot be seen on
its own is written by its code point in hexadecimal.

## Main definitions

* `escapeChar` — how one character is written.
* `quoted` — a whole text between double quotes.
-/

set_option autoImplicit false

namespace SqlDialects.Text

/-- A number in lower-case hexadecimal without leading zeros. -/
def hex (n : Nat) : Chars := Nat.toDigits 16 n

/-- How a character is written between double quotes. -/
def escapeChar (c : Char) : Chars :=
  match c with
  | '\x00' => ['\\', '0']
  | '\t' => ['\\', 't']
  | '\r' => ['\\', 'r']
  | '\n' => ['\\', 'n']
  | '\\' => ['\\', '\\']
  | '\x22' => ['\\', '\x22']
  | c => if invisibleRanges.has c then ['\\', 'u', '\x7b'] ++ hex c.toNat ++ ['\x7d'] else [c]

/-- The text between double quotes, every character visible. -/
def quoted (s : String) : String :=
  String.ofList ('\x22' :: s.toList.flatMap escapeChar ++ ['\x22'])

/-- A text that may be absent, quoted. -/
def quotedOption : Option String → String
  | some s => "Some(" ++ quoted s ++ ")"
  | none => "None"

end SqlDialects.Text
