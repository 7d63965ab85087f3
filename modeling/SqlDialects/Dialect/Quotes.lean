import SqlDialects.Text.Word

/-!
# Quoted names

A quoted name is an opening mark, a body in which every closing mark is written twice, and a
closing mark.  The two marks may be the same character.  What stands between quotes is never taken
for syntax: looking for the last part of a qualified name, or for the alias of an expression, passes
over quoted text as a whole.

## Main definitions

* `ByteSpan.slice?` — the characters in a stretch of a text that is given by its bytes.
* `Quotes.quote`, `unquote` — writing and reading a quoted name.
* `Quotes.unquote?` — reading it by the bytes of its body.
* `Quotes.afterQuoted` — what follows the closing mark.
* `Quotes.lastSegment` — what follows the last separator outside quotes.
* `Quotes.trailingAlias` — the alias at the end of an expression.
-/

set_option autoImplicit false

namespace SqlDialects

open Text

/-- The marks around a quoted name. -/
structure Quotes where
  openMark : Char
  closeMark : Char
deriving DecidableEq, Repr, Inhabited

/-! ## Stretches of a text -/

/-- A stretch of a text, from `start` up to but not including `stop`, counted in bytes. -/
structure ByteSpan where
  start : Nat
  stop : Nat
deriving DecidableEq, Repr, Inhabited

/-- What follows the first bytes of a text; nothing if they do not end with a character. -/
def dropBytes? : Nat → Chars → Option Chars
  | 0, s => some s
  | _ + 1, [] => none
  | n + 1, c :: s => if c.utf8Size ≤ n + 1 then dropBytes? (n + 1 - c.utf8Size) s else none

/-- The characters in the first bytes of a text; nothing if they do not end with a character. -/
def takeBytes? : Nat → Chars → Option Chars
  | 0, _ => some []
  | _ + 1, [] => none
  | n + 1, c :: s =>
    if c.utf8Size ≤ n + 1 then (takeBytes? (n + 1 - c.utf8Size) s).map (c :: ·) else none

/-- The characters in a stretch of a text.  There are none to be had if it ends before it begins, if
it goes beyond the text, or if it cuts a character. -/
def ByteSpan.slice? (span : ByteSpan) (s : Chars) : Option Chars :=
  if span.start ≤ span.stop then
    (dropBytes? span.start s).bind (takeBytes? (span.stop - span.start))
  else none

namespace Quotes

/-! ## Writing -/

/-- The body of a quoted name: every closing mark twice. -/
def doubleMarks (q : Quotes) : Chars → Chars
  | [] => []
  | c :: s => if c = q.closeMark then c :: c :: q.doubleMarks s else c :: q.doubleMarks s

/-- The name between quotes. -/
def quote (q : Quotes) (name : Chars) : Chars :=
  q.openMark :: q.doubleMarks name ++ [q.closeMark]

/-! ## Reading -/

/-- A text looks quoted if it has at least two bytes, begins with the opening mark and ends with the
closing one. -/
def looksQuoted (q : Quotes) (s : Chars) : Bool :=
  2 ≤ (String.ofList s).utf8ByteSize && s.head? == some q.openMark &&
    s.getLast? == some q.closeMark

/-- Where the body of a text that looks quoted lies: after the bytes of the opening mark and before
those of the closing mark. -/
def bodySpan? (q : Quotes) (s : Chars) : Option ByteSpan :=
  if q.looksQuoted s then
    some ⟨q.openMark.utf8Size, (String.ofList s).utf8ByteSize - q.closeMark.utf8Size⟩
  else none

/-- Reads a pair of closing marks as one. -/
def singleMarks (q : Quotes) (body : Chars) : Chars :=
  replaceAll [q.closeMark, q.closeMark] [q.closeMark] body

/-- The name in a text, without quotes if it looks quoted, and without white space around it. -/
def unquote (q : Quotes) (s : Chars) : Chars :=
  let t := trim s
  if q.looksQuoted t then q.singleMarks (t.drop 1).dropLast else t

/-- The same, where the body is cut out of the text by its bytes; nothing if that cannot be done. -/
def unquote? (q : Quotes) (s : Chars) : Option Chars :=
  let t := trim s
  match q.bodySpan? t with
  | some span => (span.slice? t).map q.singleMarks
  | none => some t

/-! ## Passing over quotes -/

/-- What follows the mark that closes a quotation, given the text from its body on. -/
def afterQuoted (q : Quotes) : Chars → Option Chars
  | [] => none
  | [c] => if c = q.closeMark then some [] else none
  | c :: d :: s =>
    if c = q.closeMark then
      if d = q.closeMark then q.afterQuoted s else some (d :: s)
    else q.afterQuoted (d :: s)

/-- Looks for the last separator outside quotes; `last` is what follows the last one found. -/
def lastSegmentFrom (q : Quotes) (separator : Chars) : (quoted : Bool) → (last : Chars) → Chars →
    Chars
  | _, last, [] => last
  | true, last, [_] => last
  | true, last, c :: d :: s =>
    if c = q.closeMark then
      -- a doubled mark stands for itself
      if d = q.closeMark then q.lastSegmentFrom separator true last s
      else q.lastSegmentFrom separator false last (d :: s)
    else q.lastSegmentFrom separator true last (d :: s)
  | false, last, c :: s =>
    if c = q.openMark then q.lastSegmentFrom separator true last s
    else
      match after? separator (c :: s) with
      | some rest => q.lastSegmentFrom separator false rest s
      | none => q.lastSegmentFrom separator false last s

/-- What follows the last separator outside quotes; the whole text if there is none. -/
def lastSegment (q : Quotes) (separator s : Chars) : Chars :=
  q.lastSegmentFrom separator false s s

/-! ## Aliases -/

/-- What follows the word `as`, whatever its case, and the white space around it. -/
def afterAs? (s : Chars) : Option Chars :=
  match trimStart s with
  | a :: b :: c :: rest =>
    if a.toLower = 'a' && b.toLower = 's' && isBlank c then some (trimStart rest) else none
  | _ => none

/-- What follows the last `as` outside quotes; nothing if a quotation never ends.  `found` is what
follows the last one so far. -/
def afterLastAs (q : Quotes) : (quoted : Bool) → (found : Option Chars) → Chars → Option Chars
  | false, found, [] => found
  | true, _, [] => none
  | true, found, [c] => if c = q.closeMark then found else none
  | true, found, c :: d :: s =>
    if c = q.closeMark then
      if d = q.closeMark then q.afterLastAs true found s
      else q.afterLastAs false found (d :: s)
    else q.afterLastAs true found (d :: s)
  | false, found, c :: s =>
    if c = q.openMark then q.afterLastAs true found s
    else
      let here := if isBlank c then afterAs? (c :: s) else none
      q.afterLastAs false (here.or found) s

/-- Whether the text is one quoted name, or one word. -/
def isSingleName (q : Quotes) : Chars → Bool
  | [] => false
  | c :: s => if c = q.openMark then q.afterQuoted s == some [] else (c :: s).all isWordChar

/-- The alias of an expression `... as alias`, as it is written. -/
def trailingAlias (q : Quotes) (s : Chars) : Option Chars :=
  (q.afterLastAs false none (trim s)).filter q.isSingleName

end Quotes

end SqlDialects
