import SqlDialects.Document.Yaml.Token

/-!
# Events of YAML

The nodes of a document are told one after another by events: a scalar is one event, a list and a
record are what stands between two.  A node may have an anchor, and an alias may stand in its place
later.

Aliases are told by names at first.  Each anchor is then given a number, which is the count of the
different names that anchors had before it, and an alias stands for the last node with the number
that its name has at that point.

## Main definitions

* `Event` — an event.
* `nodeEvents?` — the events of a node.
* `events?` — the events of the one document of a row of tokens.
* `numbered?`, `anchored` — the anchors by their numbers.
-/

set_option autoImplicit false

namespace SqlDialects.Yaml

/-- What an anchor and a tag say of a node. -/
structure Properties (ref : Type) where
  anchor : Option ref := none
  tag : Option String := none
deriving Repr, Inhabited

/-- An event in which anchors are told by things of some type. -/
inductive Event (ref : Type) where
  | alias (target : ref)
  | scalar (properties : Properties ref) (style : ScalarStyle) (text : String)
  | sequenceStart (properties : Properties ref)
  | sequenceEnd
  | mappingStart (properties : Properties ref)
  | mappingEnd
deriving Repr, Inhabited

/-- Events, and the tokens behind them. -/
abbrev EventsRead := Option (List (Event String) × List Token)

/-! ## Nodes -/

/-- A node that is left out. -/
def Event.leftOut : Event String := .scalar {} .plain ""

/-- The anchor and the tag before a node, in any order. -/
def takeProperties : List Token → (Option String × Option ShortTag) × List Token
  | .anchor name :: .tag t :: ts | .tag t :: .anchor name :: ts => ((some name, some t), ts)
  | .anchor name :: ts => ((some name, none), ts)
  | .tag t :: ts => ((none, some t), ts)
  | ts => ((none, none), ts)

/-- The properties of a scalar: a lone exclamation mark says nothing of it. -/
def Properties.ofScalar (p : Properties String) : Properties String :=
  if p.tag = some "!" then { p with tag := none } else p

/-- Whether a token ends a key or a value in a block. -/
def endsBlockPart : Option Token → Bool
  | some .key | some .value | some .blockEnd => true
  | _ => false

/-- Whether a token ends a part of a list in brackets. -/
def endsSequencePart : Option Token → Bool
  | some .comma | some .closeSequence => true
  | _ => false

/-- Whether a token ends a part of a record in brackets. -/
def endsMappingPart : Option Token → Bool
  | some .comma | some .closeMapping => true
  | _ => false

/-- Events before others. -/
def EventsRead.after (first : List (Event String)) (read : EventsRead) : EventsRead :=
  read.map fun (events, ts) => (first ++ events, ts)

mutual

/-- The events of the node that begins here.  `inBlock` allows blocks, and `itemsHere` a list
without a block of its own, as the value of a key. -/
def nodeEvents? (handles : List (String × String)) : (fuel : Nat) → (inBlock itemsHere : Bool) →
    List Token → EventsRead
  | 0, _, _, _ => none
  | _ + 1, _, _, .alias name :: ts => some ([.alias name], ts)
  | fuel + 1, inBlock, itemsHere, ts => do
    let ((anchor, shortTag), ts) := takeProperties ts
    let tag ← match shortTag with
      | some t => (t.expand? handles).map some
      | none => some none
    let p : Properties String := { anchor, tag }
    match ts, inBlock with
    | .item :: _, _ =>
      if itemsHere then (itemEvents? handles fuel ts).after [.sequenceStart p]
      else if anchor.isSome || tag.isSome then some ([.scalar p .plain ""], ts)
      else none
    | .scalar style text :: ts, _ => some ([.scalar p.ofScalar style text], ts)
    | .openSequence :: ts, _ =>
      (sequenceEvents? handles fuel true ts).after [.sequenceStart p]
    | .openMapping :: ts, _ => (mappingEvents? handles fuel true ts).after [.mappingStart p]
    | .blockSequence :: ts, true =>
      (blockItemEvents? handles fuel ts).after [.sequenceStart p]
    | .blockMapping :: ts, true =>
      (blockMemberEvents? handles fuel ts).after [.mappingStart p]
    | ts, _ => if anchor.isSome || tag.isSome then some ([.scalar p .plain ""], ts) else none

/-- The items of a list in a block. -/
def blockItemEvents? (handles : List (String × String)) : (fuel : Nat) → List Token → EventsRead
  | fuel + 1, .item :: ts => do
    let (item, ts) ← match ts.head? with
      | some .item | some .blockEnd => some ([.leftOut], ts)
      | _ => nodeEvents? handles fuel true false ts
    (blockItemEvents? handles fuel ts).after item
  | _ + 1, .blockEnd :: ts => some ([.sequenceEnd], ts)
  | _, _ => none

/-- The items of a list that has no block of its own. -/
def itemEvents? (handles : List (String × String)) : (fuel : Nat) → List Token → EventsRead
  | 0, _ => none
  | fuel + 1, .item :: ts => do
    let (item, ts) ←
      if ts.head? == some .item || endsBlockPart ts.head? then some ([.leftOut], ts)
      else nodeEvents? handles fuel true false ts
    (itemEvents? handles fuel ts).after item
  | _ + 1, ts => some ([.sequenceEnd], ts)

/-- A key or a value of a record in a block. -/
def blockPartEvents? (handles : List (String × String)) : (fuel : Nat) → List Token → EventsRead
  | 0, _ => none
  | fuel + 1, ts =>
    if endsBlockPart ts.head? then some ([.leftOut], ts) else nodeEvents? handles fuel true true ts

/-- The members of a record in a block. -/
def blockMemberEvents? (handles : List (String × String)) : (fuel : Nat) → List Token → EventsRead
  | fuel + 1, .key :: ts => do
    let (key, ts) ← blockPartEvents? handles fuel ts
    let (value, ts) ← match ts with
      | .value :: ts => blockPartEvents? handles fuel ts
      | ts => some ([.leftOut], ts)
    (blockMemberEvents? handles fuel ts).after (key ++ value)
  | _ + 1, .blockEnd :: ts => some ([.mappingEnd], ts)
  | _, _ => none

/-- The items of a list in brackets.  An item may be a record of one member without brackets of its
own; if its key is left out, the sign behind is passed over with it. -/
def sequenceEvents? (handles : List (String × String)) : (fuel : Nat) → (isFirst : Bool) →
    List Token → EventsRead
  | 0, _, _ => none
  | fuel + 1, isFirst, ts =>
    match ts, isFirst with
    | .closeSequence :: ts, _ => some ([.sequenceEnd], ts)
    | .comma :: ts, false =>
      match ts with
      | .closeSequence :: ts => some ([.sequenceEnd], ts)
      | ts => sequenceItemEvents? handles fuel ts
    | ts, true => sequenceItemEvents? handles fuel ts
    | _, false => none

/-- An item of a list in brackets, and those behind it. -/
def sequenceItemEvents? (handles : List (String × String)) : (fuel : Nat) → List Token → EventsRead
  | 0, _ => none
  | fuel + 1, .key :: ts => do
    let (key, ts) ← match ts with
      | .value :: ts | .comma :: ts | .closeSequence :: ts => some ([.leftOut], ts)
      | ts => nodeEvents? handles fuel false false ts
    let (value, ts) ← match ts with
      | .value :: ts =>
        if endsSequencePart ts.head? then some ([.leftOut], ts)
        else nodeEvents? handles fuel false false ts
      | ts => some ([.leftOut], ts)
    (sequenceEvents? handles fuel false ts).after
      (.mappingStart {} :: key ++ value ++ [.mappingEnd])
  | fuel + 1, ts => do
    let (item, ts) ← nodeEvents? handles fuel false false ts
    (sequenceEvents? handles fuel false ts).after item

/-- The members of a record in brackets. -/
def mappingEvents? (handles : List (String × String)) : (fuel : Nat) → (isFirst : Bool) →
    List Token → EventsRead
  | 0, _, _ => none
  | fuel + 1, isFirst, ts =>
    match ts, isFirst with
    | .closeMapping :: ts, _ => some ([.mappingEnd], ts)
    | .comma :: ts, false =>
      match ts with
      | .closeMapping :: ts => some ([.mappingEnd], ts)
      | ts => mappingMemberEvents? handles fuel ts
    | ts, true => mappingMemberEvents? handles fuel ts
    | _, false => none

/-- A member of a record in brackets, and those behind it.  Without the sign of a key it has no
value. -/
def mappingMemberEvents? (handles : List (String × String)) : (fuel : Nat) → List Token → EventsRead
  | 0, _ => none
  | fuel + 1, .key :: ts => do
    let (key, ts) ←
      if ts.head? == some .value || endsMappingPart ts.head? then some ([.leftOut], ts)
      else nodeEvents? handles fuel false false ts
    let (value, ts) ← match ts with
      | .value :: ts =>
        if endsMappingPart ts.head? then some ([.leftOut], ts)
        else nodeEvents? handles fuel false false ts
      | ts => some ([.leftOut], ts)
    (mappingEvents? handles fuel false ts).after (key ++ value)
  | fuel + 1, ts => do
    let (key, ts) ← nodeEvents? handles fuel false false ts
    (mappingEvents? handles fuel false ts).after (key ++ [.leftOut])

end

/-! ## Documents -/

/-- The directives before a document, and the tokens behind them. -/
def takeDirectives : List Token → List Directive × List Token
  | .directive d :: ts =>
    let (directives, ts) := takeDirectives ts
    (d :: directives, ts)
  | ts => ([], ts)

/-- What handles stand for after directives.  The version is told at most once and is 1.1 or 1.2,
and no handle is declared twice. -/
def handlesOf? (directives : List Directive) : Option (List (String × String)) :=
  let versions := directives.filterMap fun
    | .version major minor => some (major, minor)
    | .handle _ _ => none
  let handles := directives.filterMap fun
    | .handle name meaning => some (name, meaning)
    | .version _ _ => none
  if versions.length ≤ 1 && versions.all (fun v => v = (1, 1) || v = (1, 2)) &&
      decide (handles.map Prod.fst).Nodup then
    some (handles ++ standardHandles)
  else none

/-- The events of the node of a document. -/
def rootEvents? (handles : List (String × String)) (ts : List Token) : EventsRead :=
  nodeEvents? handles (4 * ts.length + 8) true false ts

/-- The events of the document that begins here.  After directives, and only then, its beginning has
to be marked; a document whose beginning is marked may be left out. -/
def documentEvents? (ts : List Token) : EventsRead :=
  match takeDirectives ts with
  | (directives, .documentStart :: ts) => do
    let handles ← handlesOf? directives
    match ts.head? with
    | none | some (.directive _) | some .documentStart | some .documentEnd =>
      some ([.leftOut], ts)
    | _ => rootEvents? handles ts
  | ([], ts) => rootEvents? standardHandles ts
  | _ => none

/-- The events of a row of tokens that holds one document or nothing. -/
def events? : List Token → Option (List (Event String))
  | [] => some [.leftOut]
  | ts => do
    let (events, ts) ← documentEvents? ts
    if (ts.dropWhile (· == .documentEnd)).isEmpty then some events else none

/-! ## Anchors -/

/-- The properties of the node that begins with an event. -/
def Event.properties? {ref : Type} : Event ref → Option (Properties ref)
  | .scalar p _ _ | .sequenceStart p | .mappingStart p => some p
  | _ => none

/-- The numbers that the names of anchors have. -/
abbrev AnchorNames := List (String × Nat)

/-- Gives a number to the anchor of a node, if it has one. -/
def AnchorNames.assign (names : AnchorNames) (p : Properties String) :
    AnchorNames × Properties Nat :=
  match p.anchor with
  | some name =>
    let n := names.length
    ((name, n) :: List.filter (fun other => other.1 ≠ name) names, ⟨some n, p.tag⟩)
  | none => (names, ⟨none, p.tag⟩)

/-- The events with numbers in place of names, given the numbers of the names so far.  An alias has
to follow its anchor. -/
def numbered? : AnchorNames → List (Event String) → Option (List (Event Nat))
  | _, [] => some []
  | names, e :: events =>
    match e with
    | .alias name => do
      let n ← List.lookup name names
      return .alias n :: (← numbered? names events)
    | .scalar p style text =>
      let (names, p) := names.assign p
      (numbered? names events).map (.scalar p style text :: ·)
    | .sequenceStart p =>
      let (names, p) := names.assign p
      (numbered? names events).map (.sequenceStart p :: ·)
    | .mappingStart p =>
      let (names, p) := names.assign p
      (numbered? names events).map (.mappingStart p :: ·)
    | .sequenceEnd => (numbered? names events).map (.sequenceEnd :: ·)
    | .mappingEnd => (numbered? names events).map (.mappingEnd :: ·)

/-- The events from each anchor on, by the numbers of the anchors, the last of them first. -/
def anchored : List (Event Nat) → List (Nat × List (Event Nat))
  | [] => []
  | e :: events =>
    let later := anchored events
    match e.properties?.bind Properties.anchor with
    | some n => later ++ [(n, e :: events)]
    | none => later

end SqlDialects.Yaml
