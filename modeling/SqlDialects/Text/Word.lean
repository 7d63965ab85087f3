import SqlDialects.Text.Ascii
import SqlDialects.Text.WordTable

/-!
# Words and numerals in running text

A word character is a letter, mark, digit or connector of any script; a numeral may be written in
the decimal digits of any script, although only the ASCII ones can be read as a number.

## Main definitions

* `isWordChar`, `isAnyDigit` — the two classes.
* `startsWithWord` — whether a text begins with a given word that ends there.
* `dropSize?` — what follows a parenthesised numeral such as `(10)`.
-/

set_option autoImplicit false

namespace SqlDialects.Text

/-- A letter, mark, decimal digit, connector or join control of any script. -/
def isWordChar (c : Char) : Bool := wordRanges.has c

/-- A decimal digit of any script. -/
def isAnyDigit (c : Char) : Bool := digitRanges.has c

/-- Whether a text that follows a word character lets the word end there. -/
def endsWord : Chars → Bool
  | [] => true
  | c :: _ => !isWordChar c

/-- Whether the text begins with `word` and the word ends there. -/
def startsWithWord (word s : Chars) : Bool :=
  match after? word s with
  | some rest => endsWord rest
  | none => false

/-- What follows a numeral between parentheses at the start of the text. -/
def dropSize? : Chars → Option Chars
  | '(' :: s =>
    if (s.takeWhile isAnyDigit).isEmpty then none else after? [')'] (s.dropWhile isAnyDigit)
  | _ => none

end SqlDialects.Text
