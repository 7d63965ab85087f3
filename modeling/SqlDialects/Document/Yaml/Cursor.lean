import SqlDialects.Text.Ascii

/-!
# Places in a text of YAML

What stands at a place in a text of YAML may depend on the column and, for keys, on the line.  A
`Cursor` is such a place.  Lines end with a line feed or with one of the separators of Unicode; the
other line ends have been replaced by line feeds before.

## Main definitions

* `Cursor` — a place in a text.
* `Cursor.advance`, `skipWhile`, `moveTo` — places further on.
* `Cursor.skipFiller` — the place of the next thing that means something.
* `Cursor.atDocumentMark` — whether a document begins or ends here.
-/

set_option autoImplicit false

namespace SqlDialects.Yaml

open Text

/-! ## Characters -/

/-- A line feed, or a separator of lines or of paragraphs. -/
def isLineEnd (c : Char) : Bool := c = '\n' || c = '\u2028' || c = '\u2029'

/-- A blank within a line. -/
def isGap (c : Char) : Bool := c = ' ' || c = '\t'

/-- Whether a text begins with a line end or is over. -/
def startsLineEnd : Chars → Bool
  | [] => true
  | c :: _ => isLineEnd c

/-- Whether a text begins with white space or is over. -/
def startsBlank : Chars → Bool
  | [] => true
  | c :: _ => isGap c || isLineEnd c

/-- Whether a text begins with a mark of three characters between documents. -/
def startsDocumentMark (s : Chars) : Bool :=
  ["---", "..."].any fun mark => (after? mark.toList s).any startsBlank

/-- What line ends within a scalar stand for: a single line feed is a blank, and of several the
first does not count.  The separators of Unicode stay. -/
def foldLineEnds : Chars → Chars
  | ['\n'] => [' ']
  | '\n' :: more => more
  | ends => ends

/-! ## Places -/

/-- A place in a text: what is left of it, and where it stands. -/
structure Cursor where
  rest : Chars
  line : Nat := 0
  column : Nat := 0
deriving DecidableEq, Repr, Inhabited

namespace Cursor

/-- Whether the text is over. -/
def isEnd (cur : Cursor) : Bool := cur.rest.isEmpty

/-- The place behind the next character. -/
def step (cur : Cursor) : Cursor :=
  match cur.rest with
  | [] => cur
  | c :: s => if isLineEnd c then ⟨s, cur.line + 1, 0⟩ else ⟨s, cur.line, cur.column + 1⟩

/-- The place so many characters further on. -/
def advance (cur : Cursor) : Nat → Cursor
  | 0 => cur
  | n + 1 => cur.step.advance n

/-- The place where only the given rest of the text is left. -/
def moveTo (cur : Cursor) (rest : Chars) : Cursor :=
  cur.advance (cur.rest.length - rest.length)

/-- The place behind the characters that are accepted. -/
def skipWhile (accepts : Char → Bool) (cur : Cursor) : Cursor :=
  cur.advance (cur.rest.takeWhile accepts).length

/-- Whether the next character is the given one. -/
def startsWith (cur : Cursor) (c : Char) : Bool := cur.rest.head? == some c

/-- Whether the character after the next one is white space, or there is none. -/
def blankFollows (cur : Cursor) : Bool := startsBlank (cur.rest.drop 1)

/-- Whether a mark between documents stands here. -/
def atDocumentMark (cur : Cursor) : Bool := cur.column = 0 && startsDocumentMark cur.rest

/-- The next line, if nothing but blanks and a comment is left of this one. -/
def nextLine? (cur : Cursor) : Option Cursor :=
  let behind := cur.skipWhile isGap
  let behind := if behind.startsWith '#' then behind.skipWhile (!isLineEnd ·) else behind
  if startsLineEnd behind.rest then some behind.step else none

/-! ## Filler -/

/-- Passes over blanks, comments and line ends.  Outside brackets a tab is no blank at a place where
a key may begin, and a key may begin on every new line; whether it may is told too.  A line may
begin with a byte order mark. -/
def skipFillerFrom (inBrackets : Bool) :
    (keyAllowed inComment : Bool) → (line column : Nat) → Chars → Cursor × Bool
  | keyAllowed, _, line, column, [] => (⟨[], line, column⟩, keyAllowed)
  | keyAllowed, inComment, line, column, c :: s =>
    if isLineEnd c then
      skipFillerFrom inBrackets (keyAllowed || !inBrackets) false (line + 1) 0 s
    else if inComment || c = '#' then
      skipFillerFrom inBrackets keyAllowed true line (column + 1) s
    else if c = ' ' || (c = '\t' && (inBrackets || !keyAllowed)) ||
        (c = '\ufeff' && column = 0) then
      skipFillerFrom inBrackets keyAllowed false line (column + 1) s
    else (⟨c :: s, line, column⟩, keyAllowed)

/-- The place of the next thing that means something, and whether a key may begin there. -/
def skipFiller (cur : Cursor) (inBrackets keyAllowed : Bool) : Cursor × Bool :=
  skipFillerFrom inBrackets keyAllowed false cur.line cur.column cur.rest

end Cursor

end SqlDialects.Yaml
