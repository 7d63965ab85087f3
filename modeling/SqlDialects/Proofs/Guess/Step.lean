import SqlDialects.Proofs.Guess.Column

/-!
# Steps of the guesser

A guess is widened in two ways: by a typed value, where truth values are the least of the numbers,
and by a text, where a truth value and anything else make a string.  Both ways look at the two kinds
only (`kind_widen`, `kind_widenByText_eq`), so `TypeKind.widenBy` says in one definition what
becomes of the kind, and its properties hold of any two requests, whatever texts or values they come
from.

A step makes room for both kinds that meet in it (`hasRoomFor_widenBy`), and joins the digits unless
it makes a string (`digits_widen_cases`, `digits_widenByText_cases`).
-/

set_option autoImplicit false

namespace SqlDialects

theorem not_string_of_isNumeric {k : TypeKind} (h : k.isNumeric = true) : k ≠ .string := by
  rintro rfl
  contradiction

theorem not_bool_of_isNumeric {k : TypeKind} (h : k.isNumeric = true) : k ≠ .bool := by
  rintro rfl
  contradiction

/-! ## Steps on kinds -/

namespace TypeKind

theorem mem_all (k : TypeKind) : k ∈ all := by
  cases k <;> decide

/-- The kind of what two guesses widen to; `isText` tells whether the second one is for a text. -/
def widenBy (j k : TypeKind) (isText : Bool) : TypeKind :=
  if j = k then j
  else if isText && (j == .bool || k == .bool) then .string
  else
    match j.numericRank, k.numericRank with
    | some _, some _ => j.wider k
    | _, _ => .string

/-- Whether a column of kind `k` has room for values of kind `j`: columns of strings have it for
everything, and along the chain of numbers the farther kind has it for the nearer one. -/
def hasRoomFor (k j : TypeKind) : Bool :=
  k == j || k == .string ||
    j.numericRank.isSome && k.numericRank.isSome &&
      j.numericRank.getD 0 ≤ k.numericRank.getD 0

@[simp] theorem hasRoomFor_self (k : TypeKind) : k.hasRoomFor k = true := by simp [hasRoomFor]

theorem hasRoomFor_trans {j k l : TypeKind} (hlk : l.hasRoomFor k = true)
    (hkj : k.hasRoomFor j = true) : l.hasRoomFor j = true := by
  have hall : ∀ j ∈ all, ∀ k ∈ all, ∀ l ∈ all,
      l.hasRoomFor k = true → k.hasRoomFor j = true → l.hasRoomFor j = true := by decide
  exact hall j j.mem_all k k.mem_all l l.mem_all hlk hkj

/-- **A step makes room** for both kinds that meet in it. -/
theorem hasRoomFor_widenBy (j k : TypeKind) (isText : Bool) :
    (j.widenBy k isText).hasRoomFor j = true ∧ (j.widenBy k isText).hasRoomFor k = true := by
  have hall : ∀ j ∈ all, ∀ k ∈ all, ∀ isText, (j.widenBy k isText).hasRoomFor j = true ∧
      (j.widenBy k isText).hasRoomFor k = true := by decide
  exact hall j j.mem_all k k.mem_all isText

theorem widenBy_eq_bool_iff {j k : TypeKind} {isText : Bool} :
    j.widenBy k isText = .bool ↔ j = .bool ∧ k = .bool := by
  have hall : ∀ j ∈ all, ∀ k ∈ all, ∀ isText,
      j.widenBy k isText = .bool ↔ j = .bool ∧ k = .bool := by decide
  exact hall j j.mem_all k k.mem_all isText

/-- A step ends in numbers if it goes on from numbers, or from truth values to a number that is no
text. -/
theorem isNumeric_widenBy_iff {j k : TypeKind} {isText : Bool} :
    (j.widenBy k isText).isNumeric = true ↔
      j.isNumeric = true ∧ (k.isNumeric = true ∨ k = .bool ∧ isText = false) ∨
      j = .bool ∧ k.isNumeric = true ∧ isText = false := by
  have hall : ∀ j ∈ all, ∀ k ∈ all, ∀ isText, (j.widenBy k isText).isNumeric = true ↔
      j.isNumeric = true ∧ (k.isNumeric = true ∨ k = .bool ∧ isText = false) ∨
      j = .bool ∧ k.isNumeric = true ∧ isText = false := by decide
  exact hall j j.mem_all k k.mem_all isText

/-- Only strings have room for strings. -/
theorem ne_string_of_hasRoomFor {k j : TypeKind} (h : k.hasRoomFor j = true) (hk : k ≠ .string) :
    j ≠ .string := by
  have hall : ∀ k ∈ all, k.hasRoomFor .string = true → k = .string := by decide
  rintro rfl
  exact hk (hall k k.mem_all h)

/-- Room for truth values and for something else is that of strings or numbers. -/
theorem eq_string_or_isNumeric_of_hasRoomFor {k j : TypeKind} (hbool : k.hasRoomFor .bool = true)
    (hj : k.hasRoomFor j = true) (hne : j ≠ .bool) : k = .string ∨ k.isNumeric = true := by
  have hall : ∀ j ∈ all, ∀ k ∈ all, k.hasRoomFor .bool = true → k.hasRoomFor j = true →
      j ≠ .bool → k = .string ∨ k.isNumeric = true := by decide
  exact hall j j.mem_all k k.mem_all hbool hj hne

end TypeKind

/-! ## Steps on guesses -/

theorem TypeRequest.kind_widen (a b : TypeRequest) :
    (a.widen b).kind = a.kind.widenBy b.kind false := by
  rw [widen, TypeKind.widenBy]
  by_cases hkind : a.kind = b.kind
  · rw [if_pos hkind, if_pos hkind]
  rw [if_neg hkind, if_neg hkind, Bool.false_and, if_neg Bool.false_ne_true, TypeKind.wider]
  cases a.kind.numericRank with
  | none => rfl
  | some ra =>
    cases b.kind.numericRank with
    | none => rfl
    | some rb => rfl

theorem kind_widenByText_eq (a b : TypeRequest) :
    (widenByText a b).kind = a.kind.widenBy b.kind true := by
  by_cases hkind : a.kind = b.kind
  · rw [(widenByText_of_kind_eq hkind).1, TypeKind.widenBy, if_pos hkind]
  by_cases hbool : a.kind = .bool ∨ b.kind = .bool
  · have htruth : (true && (a.kind == .bool || b.kind == .bool)) = true := by simpa using hbool
    rw [widenByText, if_pos ⟨hkind, hbool⟩, TypeKind.widenBy, if_neg hkind, if_pos htruth]
  · have htruth : (a.kind == .bool || b.kind == .bool) = false := by simpa using hbool
    rw [widenByText, if_neg fun h => hbool h.2, TypeRequest.kind_widen, TypeKind.widenBy,
      TypeKind.widenBy, htruth, Bool.and_false, Bool.and_false]

/-- Requests widen to one with the digits of both, or to a string without any. -/
theorem TypeRequest.digits_widen_cases (a b : TypeRequest) :
    (a.widen b).digits = a.digits.join b.digits ∨
      (a.widen b).kind = .string ∧ (a.widen b).decimalSize = none := by
  have hcombine : ∀ d e : Option DecimalSize,
      (DecimalSize.combine d e).getD {} = (d.getD {}).join (e.getD {}) := by
    rintro (_ | d) (_ | e)
    · rfl
    · exact (join_empty e).symm
    · obtain ⟨before, after⟩ := d
      cases before <;> cases after <;> rfl
    · rfl
  rw [widen]
  split
  · exact .inl (hcombine _ _)
  · cases a.kind.numericRank with
    | none => exact .inr ⟨rfl, rfl⟩
    | some ra =>
      cases b.kind.numericRank with
      | none => exact .inr ⟨rfl, rfl⟩
      | some rb => exact .inl (hcombine _ _)

/-- What makes no string joins the digits. -/
theorem TypeRequest.digits_widen {a b : TypeRequest} (h : (a.widen b).kind ≠ .string) :
    (a.widen b).digits = a.digits.join b.digits :=
  (digits_widen_cases a b).resolve_right fun hstring => h hstring.1

theorem digits_widenByText_cases (a b : TypeRequest) :
    (widenByText a b).digits = a.digits.join b.digits ∨
      (widenByText a b).kind = .string ∧ (widenByText a b).decimalSize = none := by
  rw [widenByText]
  split
  · exact .inr ⟨rfl, rfl⟩
  · exact TypeRequest.digits_widen_cases a b

theorem digits_widenByText {a b : TypeRequest} (h : (widenByText a b).kind ≠ .string) :
    (widenByText a b).digits = a.digits.join b.digits :=
  (digits_widenByText_cases a b).resolve_right fun hstring => h hstring.1

end SqlDialects
