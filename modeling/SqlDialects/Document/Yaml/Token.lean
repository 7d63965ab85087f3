import SqlDialects.Document.Yaml.Scalar
import SqlDialects.Document.Yaml.Tag

/-!
# Tokens of YAML

A text of YAML is a row of tokens: signs, scalars, anchors and tags, and the beginnings and ends of
blocks, which the text shows by its columns alone.  A key of a record is known to be one only by the
colon behind it, so wherever a key may begin the place is kept until it is known; then the sign of
the key, and with it perhaps the beginning of a block, is put before the tokens that came since.  A
key that begins so stands on one line and takes at most 1024 characters.

Here a text is turned into tokens by a `Reader`, which holds the tokens so far and the place, the
columns of the blocks that have begun, and for each level of brackets the place where a key may have
begun.

## Main definitions

* `Token` — a token.
* `Reader`, `Reader.next?` — one step of reading.
* `tokens?` — the tokens of a text.
-/

set_option autoImplicit false

namespace SqlDialects.Yaml

open Text

/-- A token. -/
inductive Token where
  | directive (d : Directive)
  | documentStart
  | documentEnd
  | blockSequence
  | blockMapping
  | blockEnd
  /-- An opening square bracket. -/
  | openSequence
  | closeSequence
  /-- An opening brace. -/
  | openMapping
  | closeMapping
  /-- A dash before an item. -/
  | item
  | comma
  /-- The beginning of a key. -/
  | key
  /-- A colon, behind which a value follows. -/
  | value
  | alias (name : String)
  | anchor (name : String)
  | tag (t : ShortTag)
  | scalar (style : ScalarStyle) (text : String)
deriving DecidableEq, Repr, Inhabited

/-! ## Readers -/

/-- A place where a key may have begun. -/
structure KeyPlace where
  /-- Nothing else than a key makes sense here. -/
  isRequired : Bool
  /-- How many tokens come before. -/
  index : Nat
  line : Nat
  column : Nat
deriving DecidableEq, Repr, Inhabited

/-- A text that has been read up to a place. -/
structure Reader where
  cur : Cursor
  tokens : Array Token := #[]
  /-- The columns of the blocks that have begun, innermost first. -/
  blocks : List Nat := []
  /-- Where a key may have begun within the innermost brackets. -/
  key : Option KeyPlace := none
  /-- The same for the brackets around, and outside all brackets at last. -/
  outerKeys : List (Option KeyPlace) := []
  /-- Whether a key may begin here. -/
  keyAllowed : Bool := true
deriving Repr, Inhabited

namespace Reader

/-- Whether the place is within brackets. -/
def inBrackets (r : Reader) : Bool := !r.outerKeys.isEmpty

/-- The least column of what belongs to the innermost block. -/
def least (r : Reader) : Nat :=
  match r.blocks with
  | [] => 0
  | column :: _ => column + 1

/-- Adds a token. -/
def put (r : Reader) (t : Token) : Reader := { r with tokens := r.tokens.push t }

/-- Adds a token for some characters. -/
def sign (r : Reader) (t : Token) (width : Nat) : Reader :=
  { r.put t with cur := r.cur.advance width }

/-! ### Blocks -/

/-- Begins a block in a column, unless the innermost block is as far to the right.  Its token is put
behind the first `index` tokens. -/
def openBlock (r : Reader) (t : Token) (column index : Nat) : Reader :=
  if !r.inBrackets && r.least ≤ column then
    { r with blocks := column :: r.blocks, tokens := r.tokens.insertIdxIfInBounds index t }
  else r

/-- Begins a block here. -/
def openBlockHere (r : Reader) (t : Token) : Reader :=
  r.openBlock t r.cur.column r.tokens.size

/-- Ends the blocks that do not reach to the left as far as the column. -/
def closeBlocks (r : Reader) (isOutside : Nat → Bool) : Reader :=
  if r.inBrackets then r
  else
    let closed := r.blocks.takeWhile isOutside
    { r with
      blocks := r.blocks.drop closed.length
      tokens := r.tokens ++ Array.replicate closed.length Token.blockEnd }

/-! ### Keys -/

/-- Gives up the place where a key may have begun, which must not be if nothing else makes sense. -/
def forgetKey (r : Reader) : Option Reader :=
  if r.key.any (·.isRequired) then none else some { r with key := none }

/-- Keeps the place as one where a key may begin, if one may begin here. -/
def rememberKey (r : Reader) : Option Reader :=
  if r.keyAllowed then
    let isRequired := !r.inBrackets && r.blocks.head? == some r.cur.column
    let place : KeyPlace := ⟨isRequired, r.tokens.size, r.cur.line, r.cur.column⟩
    (r.forgetKey).map fun r => { r with key := some place }
  else some r

/-- Whether a key that began at a place may end at another. -/
def KeyPlace.reaches (k : KeyPlace) (cur : Cursor) : Bool :=
  k.line = cur.line && cur.column ≤ k.column + 1024

/-- Gives up a place from which no key can reach here any more. -/
def stillKey (cur : Cursor) (key : Option KeyPlace) : Option (Option KeyPlace) :=
  match key with
  | some k => if KeyPlace.reaches k cur then some key else if k.isRequired then none else some none
  | none => some none

/-- Gives up all such places. -/
def forgetOldKeys (r : Reader) : Option Reader := do
  return { r with
    key := ← stillKey r.cur r.key
    outerKeys := ← r.outerKeys.mapM (stillKey r.cur) }

/-! ### Tokens -/

/-- An opening bracket. -/
def openBracket (r : Reader) (t : Token) : Option Reader :=
  r.rememberKey.map fun r =>
    { r.sign t 1 with key := none, outerKeys := r.key :: r.outerKeys, keyAllowed := true }

/-- A closing bracket. -/
def closeBracket (r : Reader) (t : Token) : Option Reader :=
  r.forgetKey.map fun r =>
    match r.outerKeys with
    | [] => { r.sign t 1 with keyAllowed := false }
    | key :: outer => { r.sign t 1 with key, outerKeys := outer, keyAllowed := false }

/-- A comma. -/
def comma (r : Reader) : Option Reader :=
  r.forgetKey.map fun r => { r.sign .comma 1 with keyAllowed := true }

/-- A dash before an item. -/
def item (r : Reader) : Option Reader :=
  if !r.inBrackets && !r.keyAllowed then none
  else
    (r.openBlockHere .blockSequence).forgetKey.map fun r =>
      { r.sign .item 1 with keyAllowed := true }

/-- A question mark before a key. -/
def explicitKey (r : Reader) : Option Reader :=
  if !r.inBrackets && !r.keyAllowed then none
  else
    (r.openBlockHere .blockMapping).forgetKey.map fun r =>
      { r.sign .key 1 with keyAllowed := !r.inBrackets }

/-- A colon behind a key. -/
def value (r : Reader) : Option Reader :=
  match r.key with
  | some k =>
    let tokens := r.tokens.insertIdxIfInBounds k.index .key
    let r : Reader := { r with tokens, key := none, keyAllowed := false }
    some ((r.openBlock .blockMapping k.column k.index).sign .value 1)
  | none =>
    if !r.inBrackets && !r.keyAllowed then none
    else
      let r := (r.openBlockHere .blockMapping).sign .value 1
      some { r with keyAllowed := !r.inBrackets }

/-- Something that a key may begin with and that no key follows on the same line. -/
def part (r : Reader) (read : Option (Token × Cursor)) : Option Reader := do
  let r ← r.rememberKey
  let (t, behind) ← read
  return { r.put t with cur := behind, keyAllowed := false }

/-- A plain scalar, behind whose last line a key may begin. -/
def plain (r : Reader) : Option Reader := do
  let (text, behind, endsLine) ← r.cur.plain? r.inBrackets r.least
  let r ← r.part (some (.scalar .plain text, behind))
  return { r with keyAllowed := endsLine }

/-- A block of lines. -/
def block (r : Reader) : Option Reader := do
  let r ← r.forgetKey
  let (style, text, behind) ← r.cur.block? r.least
  return { r.put (.scalar style text) with cur := behind, keyAllowed := true }

/-- A mark between documents. -/
def documentMark (r : Reader) (t : Token) : Option Reader :=
  ((r.closeBlocks fun _ => true).forgetKey).map fun r => { r.sign t 3 with keyAllowed := false }

/-- A directive. -/
def directive (r : Reader) : Option Reader := do
  let r ← (r.closeBlocks fun _ => true).forgetKey
  let (d, behind) ← r.cur.directive?
  return { r.put (.directive d) with cur := behind, keyAllowed := false }

/-! ### Steps -/

/-- Reads the token that begins here. -/
def token? (r : Reader) : Option Reader :=
  let cur := r.cur
  if cur.column = 0 && cur.startsWith '%' then r.directive
  else if cur.atDocumentMark then
    r.documentMark (if cur.startsWith '-' then .documentStart else .documentEnd)
  else
    match cur.rest.head? with
    | some '[' => r.openBracket .openSequence
    | some '\x7b' => r.openBracket .openMapping
    | some ']' => r.closeBracket .closeSequence
    | some '\x7d' => r.closeBracket .closeMapping
    | some ',' => r.comma
    | some '*' => r.part (cur.anchorName?.map fun (name, behind) => (.alias name, behind))
    | some '&' => r.part (cur.anchorName?.map fun (name, behind) => (.anchor name, behind))
    | some '!' => r.part ((cur.tag? r.inBrackets).map fun (t, behind) => (.tag t, behind))
    | some '\x22' | some '\x27' =>
      r.part (cur.quoted?.map fun (text, behind) => (.scalar .quoted text, behind))
    | some '-' => if cur.blankFollows then r.item else r.plain
    | some '?' => if r.inBrackets || cur.blankFollows then r.explicitKey else r.plain
    | some ':' => if r.inBrackets || cur.blankFollows then r.value else r.plain
    | some '|' | some '>' => if r.inBrackets then none else r.block
    | some c => if startsPlain c then r.plain else none
    | none => none

/-- Goes to the place of the next token and ends the blocks that end before it. -/
def goToToken (r : Reader) : Option Reader :=
  let (cur, keyAllowed) := r.cur.skipFiller r.inBrackets r.keyAllowed
  let there : Reader := { r with cur, keyAllowed }
  (there.forgetOldKeys).map fun r => r.closeBlocks (cur.column < ·)

/-- Reads the tokens that are left. -/
def readAll : (fuel : Nat) → Reader → Option Reader
  | 0, _ => none
  | fuel + 1, r => do
    let r ← r.goToToken
    if r.cur.isEnd then (r.closeBlocks fun _ => true).forgetKey
    else readAll fuel (← r.token?)

end Reader

/-- The tokens of a text, whose line ends have been unified.  Every token but the ends of blocks
takes a character at least. -/
def tokens? (text : Chars) : Option (List Token) :=
  (Reader.readAll (text.length + 1) { cur := { rest := text } }).map fun r => r.tokens.toList

end SqlDialects.Yaml
