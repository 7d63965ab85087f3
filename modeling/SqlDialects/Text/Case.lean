import SqlDialects.Text.CaseTable

/-!
# Case mapping of whole texts

Lower and upper case for all scripts, with the mappings that turn one character into several and
the rule for the final sigma.

## Main definitions

* `toLowerCase` — every character in lower case; a capital sigma that ends a word becomes `ς`.
* `toUpperCase` — every character in upper case.
-/

set_option autoImplicit false

namespace SqlDialects.Text

/-- The image of a code point under the run that holds it, or the code point itself. -/
def mapByRuns (runs : List (Nat × Nat × Nat × Nat)) (n : Nat) : Nat :=
  match runs.find? fun run =>
      run.1 ≤ n && n ≤ run.2.1 && (n - run.1) % run.2.2.1 == 0 with
  | some run => run.2.2.2 + (n - run.1)
  | none => n

/-- The lower case of one character on its own. -/
def lowerChar (c : Char) : Chars :=
  if c.toNat = 304 then ['i', '\u0307'] else [Char.ofNat (mapByRuns lowerRuns c.toNat)]

/-- The upper case of one character. -/
def upperChar (c : Char) : Chars :=
  match upperExpansions.find? fun entry => entry.1 == c.toNat with
  | some entry => entry.2.map Char.ofNat
  | none => [Char.ofNat (mapByRuns upperRuns c.toNat)]

/-- Whether the first character that is not case-ignorable is cased. -/
def meetsCased (s : Chars) : Bool :=
  match s.dropWhile caseIgnorableRanges.has with
  | [] => false
  | c :: _ => casedRanges.has c

/-- Lower case, given the part of the text already passed, backwards.  A capital sigma is final
when a cased letter stands before it and none after it. -/
def lowerFrom (before : Chars) : Chars → Chars
  | [] => []
  | c :: rest =>
    let image :=
      if c = 'Σ' then
        if meetsCased before && !meetsCased rest then ['ς'] else ['σ']
      else lowerChar c
    image ++ lowerFrom (c :: before) rest

/-- The text in lower case. -/
def toLowerCase (s : String) : String := String.ofList (lowerFrom [] s.toList)

/-- The text in upper case. -/
def toUpperCase (s : String) : String := String.ofList (s.toList.flatMap upperChar)

end SqlDialects.Text
