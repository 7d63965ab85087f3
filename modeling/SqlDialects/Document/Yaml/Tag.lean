import SqlDialects.Document.Basic
import SqlDialects.Document.Yaml.Cursor

/-!
# Anchors, tags and directives of YAML

What stands before a node may name it by an anchor, so that an alias can stand for it later, and may
say by a tag what it is.  A tag is written in full between angle brackets, or begins with a handle,
whose meaning a directive before the document may declare.

## Main definitions

* `Cursor.anchorName?` — the name after the sign of an anchor or of an alias.
* `ShortTag`, `Cursor.tag?` — a tag as it is written.
* `Directive`, `Cursor.directive?` — a directive.
* `ShortTag.expand?` — the whole tag.
-/

set_option autoImplicit false

namespace SqlDialects.Yaml

open Text

/-! ## Names -/

/-- A character of the names of anchors, handles and directives. -/
def isNameChar (c : Char) : Bool := c.isAlphanum || c = '_' || c = '-'

/-- The name that begins here, which may be empty, and the place behind it. -/
def Cursor.name (cur : Cursor) : String × Cursor :=
  (String.ofList (cur.rest.takeWhile isNameChar), cur.skipWhile isNameChar)

/-- Signs that may follow the name of an anchor at once. -/
def signsBehindName : List Char := ['?', ':', ',', ']', '\x7d', '%', '@', '\x60']

/-- The name of an anchor or an alias, whose sign stands here. -/
def Cursor.anchorName? (cur : Cursor) : Option (String × Cursor) :=
  let (name, behind) := cur.step.name
  if name.isEmpty then none
  else if startsBlank behind.rest || (behind.rest.head?).any signsBehindName.contains then
    some (name, behind)
  else none

/-! ## Tags -/

/-- A tag as it is written: a handle, which is empty if the tag is complete, and the rest. -/
structure ShortTag where
  handle : String
  suffix : String
deriving DecidableEq, Repr, Inhabited

/-- A character of tags.  Commas and square brackets are only allowed in tags that are written in
full. -/
def isTagChar (isFull : Bool) (c : Char) : Bool :=
  isNameChar c || c ∈ [';', '/', '?', ':', '@', '&', '=', '+', '$', '.', '%', '!', '~', '*', '\x27',
    '(', ')'] || (isFull && c ∈ [',', '[', ']'])

/-- How many octets a character takes that begins with the given one, and its part of the code
point. -/
def leadingOctet? (n : Nat) : Option (Nat × Nat) :=
  if n < 128 then some (1, n)
  else if n < 192 then none
  else if n < 224 then some (2, n - 192)
  else if n < 240 then some (3, n - 224)
  else if n < 248 then some (4, n - 240)
  else none

/-- Reads a tag, in which octets may be written in hexadecimal; `left` octets of the character with
the code point `code` are still to come. -/
def readTag (isFull : Bool) : (left code : Nat) → Chars → Option (Chars × Chars)
  | 0, _, '%' :: a :: b :: s => do
    let (width, code) ← leadingOctet? (16 * (← digitIn? 16 a) + (← digitIn? 16 b))
    let (text, rest) ← readTag isFull (width - 1) code s
    return (if width = 1 then Char.ofNat code :: text else text, rest)
  | left + 1, code, '%' :: a :: b :: s => do
    let n := 16 * (← digitIn? 16 a) + (← digitIn? 16 b)
    if n < 128 ∨ 192 ≤ n then none
    else
      let code := 64 * code + (n - 128)
      let (text, rest) ← readTag isFull left code s
      return (if left = 0 then Char.ofNat code :: text else text, rest)
  | 0, _, '%' :: _ => none
  | _ + 1, _, _ => none
  | 0, _, [] => some ([], [])
  | 0, _, c :: s =>
    if isTagChar isFull c then
      (readTag isFull 0 0 s).map fun (text, rest) => (c :: text, rest)
    else some ([], c :: s)

/-- The text of a tag that begins here. -/
def Cursor.tagText? (cur : Cursor) (isFull : Bool) : Option (String × Cursor) :=
  (readTag isFull 0 0 cur.rest).map fun (text, rest) => (String.ofList text, cur.moveTo rest)

/-- A text that is not empty. -/
def unlessEmpty (s : String) : Option String := if s.isEmpty then none else some s

/-- The handle that begins here with an exclamation mark, or a lone part of a tag that is none. -/
def Cursor.handle? (cur : Cursor) : Option (String × Cursor) :=
  if cur.startsWith '!' then
    let (name, behind) := cur.step.name
    if behind.startsWith '!' then some ("!" ++ name ++ "!", behind.step)
    else some ("!" ++ name, behind)
  else none

/-- Whether a text is a handle with a name, which may be empty. -/
def isNamedHandle (s : String) : Bool := s ≠ "!" && s.endsWith "!"

/-- The tag that begins here.  A lone exclamation mark is a tag of its own. -/
def Cursor.tag? (cur : Cursor) (inBrackets : Bool) : Option (ShortTag × Cursor) := do
  let (tag, behind) ←
    if cur.step.startsWith '<' then do
      let (text, behind) ← (cur.advance 2).tagText? true
      let text ← unlessEmpty text
      if behind.startsWith '>' then pure (⟨"", text⟩, behind.step) else none
    else do
      let (handle, behind) ← cur.handle?
      let (text, behind) ← behind.tagText? false
      if isNamedHandle handle then pure (⟨handle, ← unlessEmpty text⟩, behind)
      else
        let suffix := (handle.drop 1).toString ++ text
        pure (if suffix.isEmpty then ⟨"", "!"⟩ else ⟨"!", suffix⟩, behind)
  if startsBlank behind.rest || (inBrackets && behind.startsWith ',') then some (tag, behind)
  else none

/-! ## Directives -/

/-- A directive before a document. -/
inductive Directive where
  /-- The version of YAML. -/
  | version (major minor : Nat)
  /-- What a handle stands for. -/
  | handle (name meaning : String)
deriving DecidableEq, Repr, Inhabited

/-- A number of at most nine digits. -/
def Cursor.versionNumber? (cur : Cursor) : Option (Nat × Cursor) :=
  let digits := cur.rest.takeWhile Char.isDigit
  if digits.length ≤ 9 then
    (readNat digits).map fun n => (n, cur.advance digits.length)
  else none

/-- The version that a directive declares. -/
def Cursor.version? (cur : Cursor) : Option (Directive × Cursor) := do
  let (major, behind) ← (cur.skipWhile isGap).versionNumber?
  if behind.startsWith '.' then
    let (minor, behind) ← behind.step.versionNumber?
    return (.version major minor, behind)
  else none

/-- The handle that a directive declares. -/
def Cursor.handleMeaning? (cur : Cursor) : Option (Directive × Cursor) := do
  let (handle, behind) ← (cur.skipWhile isGap).handle?
  if (handle = "!" || isNamedHandle handle) && (behind.rest.head?).any isGap then
    let (meaning, behind) ← (behind.skipWhile isGap).tagText? true
    let meaning ← unlessEmpty meaning
    if startsBlank behind.rest then some (.handle handle meaning, behind) else none
  else none

/-- The directive whose sign stands here, and the place of the next line. -/
def Cursor.directive? (cur : Cursor) : Option (Directive × Cursor) := do
  let (name, behind) := cur.step.name
  if !startsBlank behind.rest then none
  else
    let (directive, behind) ← match name with
      | "YAML" => behind.version?
      | "TAG" => behind.handleMeaning?
      | _ => none
    return (directive, ← behind.nextLine?)

/-! ## Whole tags -/

/-- What handles stand for unless a directive says otherwise. -/
def standardHandles : List (String × String) := [("!", "!"), ("!!", standardTags)]

/-- The whole tag, if its handle has a meaning. -/
def ShortTag.expand? (tag : ShortTag) (handles : List (String × String)) : Option String :=
  if tag.handle.isEmpty then some tag.suffix
  else (handles.lookup tag.handle).map (· ++ tag.suffix)

end SqlDialects.Yaml
