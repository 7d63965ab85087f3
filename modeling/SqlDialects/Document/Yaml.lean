import SqlDialects.Document.Yaml.Event

/-!
# Documents in YAML

A text of YAML holds one document.  It is read in three steps, each of which may refuse it: the text
is a row of tokens, the tokens are the events of one document, and the anchors that aliases name are
there.

An alias stands for a whole node, and a node may even hold an alias of itself, so aliases are
followed only as deep as there are anchors.  If there is an alias still deeper, then some node holds
itself on the way there, and so that alias stands for something endless.

## Main definitions

* `Yaml.build` — the document that events tell.
* `Yaml.read?` — the document of a text.
-/

set_option autoImplicit false

namespace SqlDialects.Yaml

open Text

/-! ## Texts -/

/-- The text with every line end that is no separator of Unicode as a line feed. -/
def unifyLineEnds : Chars → Chars
  | '\r' :: '\n' :: s => '\n' :: unifyLineEnds s
  | '\r' :: s | '\u0085' :: s => '\n' :: unifyLineEnds s
  | c :: s => c :: unifyLineEnds s
  | [] => []

/-- Whether a text may hold the character. -/
def isAllowed (c : Char) : Bool :=
  let n := c.toNat
  n = 9 || n = 10 || n = 13 || (32 ≤ n && n ≤ 126) || n = 133 || (160 ≤ n && n ≤ 65533) || 65536 ≤ n

/-! ## Documents -/

/-- Things two by two. -/
def inPairs {α : Type} : List α → List (α × α)
  | a :: b :: rest => (a, b) :: inPairs rest
  | _ => []

/-- A list or a record that has begun, with its parts so far, the last of them first. -/
structure OpenNode where
  isMapping : Bool
  parts : List Document

/-- The finished list or record. -/
def OpenNode.close (node : OpenNode) : Document :=
  if node.isMapping then .mapping (inPairs node.parts.reverse) else .sequence node.parts.reverse

/-- The document of a node that begins the events, given the documents that aliases stand for;
`around` are the lists and records that have begun, innermost first. -/
def build (aliased : Nat → Document) : (around : List OpenNode) → List (Event Nat) → Document
  | _, [] => .null
  | around, e :: events =>
    let put (around : List OpenNode) (d : Document) : Document :=
      match around with
      | [] => d
      | node :: around => build aliased ({ node with parts := d :: node.parts } :: around) events
    match e with
    | .alias n => put around (aliased n)
    | .scalar p style text => put around (.scalar p.tag style text)
    | .sequenceStart _ => build aliased (⟨false, []⟩ :: around) events
    | .mappingStart _ => build aliased (⟨true, []⟩ :: around) events
    | .sequenceEnd | .mappingEnd =>
      match around with
      | [] => .null
      | node :: around => put around node.close

/-- The documents that anchors name, in which aliases are followed to a depth. -/
def aliasedTo (anchors : List (Nat × List (Event Nat))) : (depth : Nat) → List (Nat × Document)
  | 0 => []
  | depth + 1 =>
    let inner := aliasedTo anchors depth
    anchors.map fun (n, events) => (n, build (fun m => (inner.lookup m).getD .endless) [] events)

/-- The document that numbered events tell. -/
def document (events : List (Event Nat)) : Document :=
  let anchors := anchored events
  let named := aliasedTo anchors anchors.length
  build (fun n => (named.lookup n).getD .endless) [] events

/-- The document that a text holds.  A text with nothing in it holds a document that is left out. -/
def read? (text : String) : Option Document := do
  let s := text.toList
  if s.all isAllowed then
    let ts ← tokens? (unifyLineEnds s)
    let events ← numbered? [] (← events? ts)
    return document events
  else none

end SqlDialects.Yaml
