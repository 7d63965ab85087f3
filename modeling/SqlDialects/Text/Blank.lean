/-!
# White space and the trimming of text

Every rule of this library that speaks of white space means the Unicode property `White_Space`.
Text is handled as a list of characters, which is what the rules are stated over; the functions on
`String` at the end only convert.

## Main definitions

* `CodeRanges.has` — membership in a table of code point ranges.
* `isBlank` — the white space characters.
* `trim` — a text without the white space at its two ends.
* `words` — the maximal runs of characters that are not white space.
-/

set_option autoImplicit false

namespace SqlDialects.Text

/-- A text, as the list of its characters. -/
abbrev Chars := List Char

/-! ## Tables of code points -/

/-- A table of inclusive code point ranges. -/
abbrev CodeRanges := List (Nat × Nat)

/-- Whether some range of the table holds the character. -/
def CodeRanges.has (table : CodeRanges) (c : Char) : Bool :=
  table.any fun range => range.1 ≤ c.toNat && c.toNat ≤ range.2

/-! ## White space -/

/-- The code points with the property `White_Space`. -/
def blankRanges : CodeRanges :=
  [(9, 13), (32, 32), (133, 133), (160, 160), (5760, 5760), (8192, 8202), (8232, 8233),
    (8239, 8239), (8287, 8287), (12288, 12288)]

/-- White space in the sense of Unicode. -/
def isBlank (c : Char) : Bool := blankRanges.has c

/-- The text without its leading white space. -/
def trimStart (s : Chars) : Chars := s.dropWhile isBlank

/-- The text without its trailing white space. -/
def trimEnd (s : Chars) : Chars := (s.reverse.dropWhile isBlank).reverse

/-- The text without the white space at its ends. -/
def trim (s : Chars) : Chars := trimEnd (trimStart s)

/-- Whether the text holds nothing but white space. -/
def allBlank (s : Chars) : Bool := s.all isBlank

/-- Collects the words of a text; `pending` is the word being read, backwards. -/
def wordsFrom (pending : Chars) : Chars → List Chars
  | [] => if pending.isEmpty then [] else [pending.reverse]
  | c :: rest =>
    if isBlank c then
      if pending.isEmpty then wordsFrom [] rest else pending.reverse :: wordsFrom [] rest
    else wordsFrom (c :: pending) rest

/-- The maximal runs of characters that are not white space, in order. -/
def words (s : Chars) : List Chars := wordsFrom [] s

/-! ## The same on strings -/

/-- `trim` on a string. -/
def trimmed (s : String) : String := String.ofList (trim s.toList)

/-- `allBlank` on a string. -/
def isBlankText (s : String) : Bool := allBlank s.toList

end SqlDialects.Text
