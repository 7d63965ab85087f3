import SqlDialects.Text.Blank

/-!
# Comparison of text up to ASCII case, and searching in text

Names of columns, tables, databases and connection keywords are compared without regard to the case
of the letters `A` to `Z`; every other character is compared as it is.

## Main definitions

* `lower`, `upper` — ASCII case mapping, character by character.
* `sameName` — equality up to ASCII case.
* `contains`, `replaceAll` — search and replacement of a fixed text.
* `after?` — what follows a given beginning.
-/

set_option autoImplicit false

namespace SqlDialects.Text

/-! ## Case -/

/-- The text with `A` to `Z` in lower case. -/
def lower (s : Chars) : Chars := s.map Char.toLower

/-- The text with `a` to `z` in upper case. -/
def upper (s : Chars) : Chars := s.map Char.toUpper

/-- Equality of two texts up to the case of ASCII letters. -/
def sameName (a b : String) : Bool := lower a.toList == lower b.toList

theorem sameName_refl (a : String) : sameName a a = true := by simp [sameName]

theorem sameName_comm (a b : String) : sameName a b = sameName b a := by
  simp only [sameName]; exact Bool.beq_comm

theorem sameName_trans {a b c : String} (hab : sameName a b = true) (hbc : sameName b c = true) :
    sameName a c = true := by
  simp only [sameName, beq_iff_eq] at *
  exact hab.trans hbc

/-! ## Searching -/

/-- What follows `start` in a text that begins with it. -/
def after? : Chars → Chars → Option Chars
  | [], s => some s
  | _ :: _, [] => none
  | c :: start, d :: s => if c = d then after? start s else none

theorem after?_eq_some_iff {start s rest : Chars} :
    after? start s = some rest ↔ s = start ++ rest := by
  induction start generalizing s with
  | nil => simp [after?, eq_comm]
  | cons c start ih =>
    cases s with
    | nil => simp [after?]
    | cons d s =>
      by_cases h : c = d
      · simp [after?, h, ih]
      · simp [after?, h, Ne.symm h]

/-- Whether `part` occurs in the text. -/
def contains (part : Chars) : Chars → Bool
  | [] => part.isEmpty
  | c :: s => part.isPrefixOf (c :: s) || contains part s

/-- Replaces the occurrences of `old`, found from the left and not overlapping; `skip` counts the
characters of the last occurrence that are still to be passed over. -/
def replaceFrom (old new : Chars) : Nat → Chars → Chars
  | _, [] => []
  | skip + 1, _ :: s => replaceFrom old new skip s
  | 0, c :: s =>
    if old.isPrefixOf (c :: s) then new ++ replaceFrom old new (old.length - 1) s
    else c :: replaceFrom old new 0 s

/-- Replaces every occurrence of the non-empty text `old` by `new`. -/
def replaceAll (old new s : Chars) : Chars := replaceFrom old new 0 s

/-- The parts of a text between the characters that `isBreak` accepts. -/
def splitAtChars (isBreak : Char → Bool) : Chars → List Chars
  | [] => [[]]
  | c :: s =>
    if isBreak c then [] :: splitAtChars isBreak s
    else
      match splitAtChars isBreak s with
      | [] => [[c]]
      | part :: parts => (c :: part) :: parts

/-- Texts joined by a separator. -/
def join (separator : String) (parts : List String) : String := separator.intercalate parts

end SqlDialects.Text
