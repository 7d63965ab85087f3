import SqlDialects.Document.Basic
import SqlDialects.Document.Yaml.Cursor

/-!
# Scalars of YAML

A scalar is written plainly, between quotes, or as a block of indented lines.  A plain or a quoted
scalar may go over several lines; what its line ends stand for is said by `foldLineEnds`.

## Main definitions

* `Cursor.quoted?` — a scalar between quotes.
* `startsPlain`, `Cursor.plain?` — a plain scalar.
* `Cursor.block?` — a block of lines.

Each of the readers gives the text and the place behind the scalar.
-/

set_option autoImplicit false

namespace SqlDialects.Yaml

open Text

/-! ## Scalars between quotes -/

/-- Where a reader stands within quotes. -/
inductive QuoteState where
  | inText
  /-- Within blanks, which count unless the line ends. -/
  | gap (blanks : Chars)
  /-- After line ends, the first of which may be taken back by a backslash. -/
  | lineEnds (isTakenBack : Bool) (ends : Chars)
  /-- After a backslash. -/
  | escape
  /-- Within a code point in hexadecimal. -/
  | code (left : Nat) (value : Nat)
  /-- After an apostrophe between apostrophes. -/
  | apostrophe

namespace QuoteState

/-- What has been passed over and counts as text if more text follows. -/
def pending : QuoteState → Chars
  | gap blanks => blanks
  | lineEnds isTakenBack ends => if isTakenBack then ends else foldLineEnds ends
  | _ => []

/-- The state after a blank. -/
def afterGap (c : Char) : QuoteState → QuoteState
  | gap blanks => gap (blanks ++ [c])
  | lineEnds isTakenBack ends => lineEnds isTakenBack ends
  | _ => gap [c]

/-- The state after a line end. -/
def afterLineEnd (c : Char) : QuoteState → QuoteState
  | lineEnds isTakenBack ends => lineEnds isTakenBack (ends ++ [c])
  | _ => lineEnds false [c]

end QuoteState

/-- The character that a backslash and a character stand for. -/
def escaped? (c : Char) : Option Char :=
  match c with
  | '0' => some '\x00'
  | 'a' => some '\x07'
  | 'b' => some '\x08'
  | 't' | '\t' => some '\t'
  | 'n' => some '\n'
  | 'v' => some '\x0b'
  | 'f' => some '\x0c'
  | 'r' => some '\r'
  | 'e' => some '\x1b'
  | ' ' => some ' '
  | '\x22' => some '\x22'
  | '/' => some '/'
  | '\\' => some '\\'
  | 'N' => some '\u0085'
  | '_' => some '\u00a0'
  | 'L' => some '\u2028'
  | 'P' => some '\u2029'
  | _ => none

/-- Reads on within quotes.  No line within quotes begins with a mark between documents. -/
def readQuoted (isDouble : Bool) : QuoteState → (line column : Nat) → Chars →
    Option (Chars × Cursor)
  | .apostrophe, line, column, [] => some ([], ⟨[], line, column⟩)
  | _, _, _, [] => none
  | state, line, column, c :: s =>
    let goOn (added : Chars) (state : QuoteState) : Option (Chars × Cursor) :=
      let read :=
        if isLineEnd c then readQuoted isDouble state (line + 1) 0 s
        else readQuoted isDouble state line (column + 1) s
      read.map fun (text, behind) => (added ++ text, behind)
    match state with
    | .apostrophe =>
      -- one apostrophe has been read, and a second one makes it text
      if c = '\x27' then goOn ['\x27'] .inText else some ([], ⟨c :: s, line, column⟩)
    | .escape =>
      match c with
      | 'x' => goOn [] (.code 2 0)
      | 'u' => goOn [] (.code 4 0)
      | 'U' => goOn [] (.code 8 0)
      | c =>
        if isLineEnd c then goOn [] (.lineEnds true [])
        else (escaped? c).bind fun c => goOn [c] .inText
    | .code left value =>
      match digitIn? 16 c with
      | none => none
      | some d =>
        let value := 16 * value + d
        if 1 < left then goOn [] (.code (left - 1) value)
        else if value.isValidChar then goOn [Char.ofNat value] .inText
        else none
    | state =>
      if isGap c then goOn [] (state.afterGap c)
      else if isLineEnd c then goOn [] (state.afterLineEnd c)
      else if column = 0 && startsDocumentMark (c :: s) then none
      else if isDouble && c = '\x22' then some (state.pending, ⟨s, line, column + 1⟩)
      else if isDouble && c = '\\' then goOn state.pending .escape
      else if !isDouble && c = '\x27' then goOn state.pending .apostrophe
      else goOn (state.pending ++ [c]) .inText

/-- The scalar between quotes that begins here. -/
def Cursor.quoted? (cur : Cursor) : Option (String × Cursor) :=
  let found := match cur.rest with
    | '\x22' :: s => readQuoted true .inText cur.line (cur.column + 1) s
    | '\x27' :: s => readQuoted false .inText cur.line (cur.column + 1) s
    | _ => none
  found.map fun (text, behind) => (String.ofList text, behind)

/-! ## Plain scalars -/

/-- Characters that no plain scalar begins with.  Neither does one begin with a sign of an item, a
key or a value, but the characters of these are signs only in some places. -/
def indicators : List Char :=
  [',', '[', ']', '\x7b', '\x7d', '#', '&', '*', '!', '|', '>', '\x27', '\x22', '%', '@', '\x60']

/-- Whether a character that is no sign here begins a plain scalar. -/
def startsPlain (c : Char) : Bool := !isGap c && !isLineEnd c && !indicators.contains c

/-- Characters that end a plain scalar within brackets. -/
def bracketSigns : List Char := [',', '[', ']', '\x7b', '\x7d']

/-- Where a reader stands within a plain scalar. -/
inductive PlainState where
  | inText
  | gap (blanks : Chars)
  | lineEnds (ends : Chars)

namespace PlainState

/-- What has been passed over and counts as text if more text follows. -/
def pending : PlainState → Chars
  | inText => []
  | gap blanks => blanks
  | lineEnds ends => foldLineEnds ends

/-- Whether the reader stands within the text. -/
def isInText : PlainState → Bool
  | inText => true
  | _ => false

/-- Whether the reader has passed over a line end after the text. -/
def isBehindLine : PlainState → Bool
  | lineEnds _ => true
  | _ => false

end PlainState

/-- Whether the text cannot go on before something like this: before a comment, a mark between
documents, or less indentation than `least`. -/
def plainEndsBefore (inBrackets : Bool) (least column : Nat) (s : Chars) : Bool :=
  (!inBrackets && column < least) || s.head? == some '#' ||
    (column = 0 && startsDocumentMark s)

/-- Reads on within a plain scalar; told too is whether a line end was passed over behind it.  A tab
is no indentation, and within brackets a colon is not followed by a bracket. -/
def readPlain (inBrackets : Bool) (least : Nat) : PlainState → (line column : Nat) → Chars →
    Option (Chars × Cursor × Bool)
  | state, line, column, [] => some ([], ⟨[], line, column⟩, state.isBehindLine)
  | state, line, column, c :: s =>
    let here : Cursor := ⟨c :: s, line, column⟩
    let next := startsBlank s
    if isGap c then
      match state with
      | .inText => readPlain inBrackets least (.gap [c]) line (column + 1) s
      | .gap blanks => readPlain inBrackets least (.gap (blanks ++ [c])) line (column + 1) s
      | .lineEnds ends =>
        if c = '\t' && column < least then none
        else readPlain inBrackets least (.lineEnds ends) line (column + 1) s
    else if isLineEnd c then
      match state with
      | .lineEnds ends => readPlain inBrackets least (.lineEnds (ends ++ [c])) (line + 1) 0 s
      | _ => readPlain inBrackets least (.lineEnds [c]) (line + 1) 0 s
    else if !state.isInText && plainEndsBefore inBrackets least column (c :: s) then
      some ([], here, state.isBehindLine)
    else if inBrackets && c = ':' && (s.head?).any fun d => d = '?' || bracketSigns.contains d then
      none
    else if (c = ':' && next) || (inBrackets && bracketSigns.contains c) then
      some ([], here, state.isBehindLine)
    else
      (readPlain inBrackets least .inText line (column + 1) s).map fun (text, behind) =>
        (state.pending ++ c :: text, behind)

/-- The plain scalar that begins here.  Its further lines are indented by `least` columns at
least. -/
def Cursor.plain? (cur : Cursor) (inBrackets : Bool) (least : Nat) :
    Option (String × Cursor × Bool) :=
  (readPlain inBrackets least .inText cur.line cur.column cur.rest).map fun (text, behind) =>
    (String.ofList text, behind)

/-! ## Blocks of lines -/

/-- What becomes of the line ends at the end of a block. -/
inductive Chomping where
  | strip | clip | keep
deriving DecidableEq, Repr, Inhabited

/-- How a block is written. -/
structure BlockHeader where
  /-- Line ends within the block stay as they are. -/
  isLiteral : Bool
  chomping : Chomping := .clip
  /-- The indentation relative to what the block belongs to. -/
  indent : Option Nat := none
deriving DecidableEq, Repr, Inhabited

/-- The chomping that a sign stands for. -/
def chomping? (c : Char) : Option Chomping :=
  if c = '-' then some .strip else if c = '+' then some .keep else none

/-- The indentation that a digit stands for. -/
def blockIndent? (c : Char) : Option Nat :=
  if c.isDigit && c ≠ '0' then some (c.toNat - 48) else none

/-- Reads the signs at the beginning of a block, in any order. -/
def Cursor.blockHeader (cur : Cursor) : BlockHeader × Cursor :=
  let header : BlockHeader := { isLiteral := cur.startsWith '|' }
  let behind := cur.step
  match behind.rest with
  | c :: s =>
    match chomping? c, blockIndent? c with
    | some chomping, _ =>
      match (s.head?).bind blockIndent? with
      | some n => ({ header with chomping, indent := some n }, behind.advance 2)
      | none => ({ header with chomping }, behind.step)
    | none, some n =>
      match (s.head?).bind chomping? with
      | some chomping => ({ header with chomping, indent := some n }, behind.advance 2)
      | none => ({ header with indent := some n }, behind.step)
    | none, none => (header, behind)
  | [] => (header, behind)

/-- What stands before a line of a block: line ends of empty lines, the largest column reached in
them and before the line, and the place where the line begins. -/
structure BlockGap where
  ends : Chars
  widest : Nat
  behind : Cursor

/-- Passes over empty lines and the indentation of the next line, up to a column if it is known.  A
tab is no indentation. -/
def blockGap (indent : Option Nat) : (widest line column : Nat) → Chars → Option BlockGap
  | widest, line, column, [] => some ⟨[], max widest column, ⟨[], line, column⟩⟩
  | widest, line, column, c :: s =>
    let isIndentation := indent.all (column < ·)
    if c = ' ' && isIndentation then blockGap indent widest line (column + 1) s
    else if c = '\t' && isIndentation then none
    else if isLineEnd c then
      (blockGap indent (max widest column) (line + 1) 0 s).map fun gap =>
        { gap with ends := c :: gap.ends }
    else some ⟨[], max widest column, ⟨c :: s, line, column⟩⟩

/-- What stands before the next line of a block. -/
def Cursor.blockGap? (cur : Cursor) (indent : Option Nat) : Option BlockGap :=
  blockGap indent 0 cur.line cur.column cur.rest

/-- The line end before a line of a block.  A line feed between lines of a folded block counts as a
blank, or not at all if empty lines follow, unless one of the lines begins with a blank. -/
def blockJoint (isLiteral startsWithGap previousDid : Bool) (lineEnd ends : Chars) : Chars :=
  if !isLiteral && lineEnd = ['\n'] && !startsWithGap && !previousDid then
    if ends.isEmpty then [' '] else []
  else lineEnd

/-- The lines of a block from a place on, after the end `lineEnd` of the previous line: the text,
and the line ends and the place behind it. -/
def blockLines (isLiteral : Bool) (indent : Nat) : (fuel : Nat) → (previousDid : Bool) →
    (lineEnd : Chars) → BlockGap → Option (Chars × Chars × BlockGap)
  | 0, _, _, _ => none
  | fuel + 1, previousDid, lineEnd, gap =>
    if gap.behind.column ≠ indent || gap.behind.isEnd then some ([], lineEnd, gap)
    else do
      let startsWithGap := (gap.behind.rest.head?).any isGap
      let line := gap.behind.rest.takeWhile (!isLineEnd ·)
      let behind := gap.behind.advance line.length
      let nextEnd := behind.rest.take 1
      let next ← behind.step.blockGap? (some indent)
      let (text, last) ← blockLines isLiteral indent fuel startsWithGap nextEnd next
      return (blockJoint isLiteral startsWithGap previousDid lineEnd gap.ends ++ gap.ends ++ line ++
        text, last)

/-- The block that begins here, in something whose parts are indented by `least` columns. -/
def Cursor.block? (cur : Cursor) (least : Nat) : Option (ScalarStyle × String × Cursor) := do
  let (header, behind) := cur.blockHeader
  let start ← behind.nextLine?
  let declared := header.indent.map fun n => least - 1 + n
  let gap ← start.blockGap? declared
  let indent := declared.getD (max (max gap.widest least) 1)
  let (text, lineEnd, last) ← blockLines header.isLiteral indent (cur.rest.length + 1) false [] gap
  let text := text ++ match header.chomping with
    | .strip => []
    | .clip => lineEnd
    | .keep => lineEnd ++ last.ends
  return (if header.isLiteral then .literal else .folded, String.ofList text, last.behind)

end SqlDialects.Yaml
