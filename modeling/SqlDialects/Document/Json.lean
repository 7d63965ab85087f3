import SqlDialects.Document.Basic
import SqlDialects.Text.Quoted

/-!
# Documents as JSON text

The text has a line for every item and every member, indented by two blanks for each level.  An
empty array or object stays on its line.
-/

set_option autoImplicit false

namespace SqlDialects

open Text

namespace Document

/-- How a character is written in a text of JSON. -/
def jsonChar (c : Char) : Chars :=
  match c with
  | '\x22' => ['\\', '\x22']
  | '\\' => ['\\', '\\']
  | '\x08' => ['\\', 'b']
  | '\x0c' => ['\\', 'f']
  | '\n' => ['\\', 'n']
  | '\r' => ['\\', 'r']
  | '\t' => ['\\', 't']
  | c =>
    if c.toNat < 32 then
      let digits := hex c.toNat
      ['\\', 'u'] ++ List.replicate (4 - digits.length) '0' ++ digits
    else [c]

/-- A text of JSON. -/
def jsonText (s : String) : String :=
  String.ofList ('\x22' :: s.toList.flatMap jsonChar ++ ['\x22'])

/-- The start of a line on the given level. -/
def newLine (level : Nat) : String := "\n" ++ String.ofList (List.replicate (2 * level) ' ')

/-- Lines between an opening and a closing bracket. -/
def enclosed (opening closing : String) (level : Nat) (lines : List String) : String :=
  if lines.isEmpty then opening ++ closing
  else
    opening ++ ",".intercalate (lines.map (newLine (level + 1) ++ ·)) ++ newLine level ++ closing

mutual

/-- The text of a document on the given level. -/
def renderAt (level : Nat) : Document → String
  | null | endless => "null"
  | boolean b => if b then "true" else "false"
  | integer n => toString n
  | fraction numeral => numeral
  | text s | scalar _ _ s => jsonText s
  | array items | sequence items => enclosed "[" "]" level (renderItems (level + 1) items)
  | object members => enclosed "\x7b" "\x7d" level (renderMembers (level + 1) members)
  | mapping members => enclosed "\x7b" "\x7d" level (renderPairs (level + 1) members)

/-- The texts of the items of an array. -/
def renderItems (level : Nat) : List Document → List String
  | [] => []
  | d :: items => renderAt level d :: renderItems level items

/-- The texts of the members of an object. -/
def renderMembers (level : Nat) : List (String × Document) → List String
  | [] => []
  | (name, d) :: members =>
    (jsonText name ++ ": " ++ renderAt level d) :: renderMembers level members

/-- The texts of the members of an object whose keys are documents. -/
def renderPairs (level : Nat) : List (Document × Document) → List String
  | [] => []
  | (key, d) :: members =>
    (renderAt level key ++ ": " ++ renderAt level d) :: renderPairs level members

end

/-- The document as JSON text. -/
def renderJson (d : Document) : String := d.renderAt 0

end Document

end SqlDialects
