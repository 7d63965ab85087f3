import SqlDialects.Proofs.DecimalSize

/-!
# Runs of widenings

There are three ways to widen a size, and they treat absent sides each in their own words.  All of
them come to one: the size is joined with the size that is asked for (`Widening.perform_eq_join`).
So a count of a size that has been widened time and again is the greatest among the count it began
with and those that were asked for (`toNat_beforeDigits_widened`, `toNat_scale_widened`).
-/

set_option autoImplicit false

namespace SqlDialects

namespace DecimalSize

/-! ## One widening -/

/-- One widening of a size. -/
inductive Widening where
  /-- At least so many digits before the point. -/
  | front (digits : Int)
  /-- At least so many digits on both sides. -/
  | both (before after : Int)
  /-- Wide enough for the other size. -/
  | cover (other : DecimalSize)
deriving DecidableEq, Repr, Inhabited

/-- The size after a widening. -/
def Widening.perform (d : DecimalSize) : Widening → DecimalSize
  | front digits => d.widenBefore digits
  | both before after => d.widenTo before after
  | cover other => d.widenBy other

/-- The size that a widening makes room for. -/
def Widening.asked : Widening → DecimalSize
  | front digits => ofParts (some digits) none
  | both before after => ofDigits before after
  | cover other => other

theorem widenBefore_eq_join (d : DecimalSize) (before : Int) :
    d.widenBefore before = d.join (ofParts (some before) none) := by
  obtain ⟨b, a⟩ := d
  cases b <;> cases a <;> rfl

theorem widenTo_eq_join (d : DecimalSize) (before after : Int) :
    d.widenTo before after = d.join (ofDigits before after) := by
  obtain ⟨b, a⟩ := d
  cases b <;> cases a <;> rfl

theorem widenBy_eq_join (d e : DecimalSize) : d.widenBy e = d.join e := by
  have hfront (b : UInt32) : d.widenBefore b.toNat = d.join ⟨some b, none⟩ := by
    rw [widenBefore_eq_join, ofParts, Option.map_some, clamp_toNat, Option.map_none]
  obtain ⟨before', after'⟩ := e
  cases after' with
  | none =>
    cases before' with
    | none => obtain ⟨_ | _, _ | _⟩ := d <;> rfl
    | some b => exact hfront b
  | some a =>
    -- an absent scale is compared as 0
    have hscale (s : Option UInt32) : some (max a (s.getD 0)) = maxDigits s (some a) := by
      cases s with
      | none => simp [maxDigits, word_max_comm a, word_zero_max]
      | some s => simp [maxDigits, word_max_comm a]
    cases before' with
    | none =>
      simp only [widenBy, hscale]
      obtain ⟨_ | _, _⟩ := d <;> rfl
    | some b =>
      simp only [widenBy, hfront, hscale]
      obtain ⟨_ | _, _ | _⟩ := d <;> rfl

/-- **Widening is joining.** -/
theorem Widening.perform_eq_join (d : DecimalSize) (w : Widening) :
    w.perform d = d.join w.asked := by
  cases w with
  | front digits => exact widenBefore_eq_join d digits
  | both before after => exact widenTo_eq_join d before after
  | cover other => exact widenBy_eq_join d other

/-! ## Runs -/

/-- The size after a run of widenings. -/
def widened (d : DecimalSize) (run : List Widening) : DecimalSize := run.foldl Widening.perform d

theorem widened_append (d : DecimalSize) (run later : List Widening) :
    d.widened (run ++ later) = (d.widened run).widened later := List.foldl_append

/-- A count that a join maximises is the greatest of the run. -/
theorem count_widened (count : DecimalSize → Nat)
    (hjoin : ∀ d e, count (d.join e) = max (count d) (count e)) (d : DecimalSize)
    (run : List Widening) :
    count (d.widened run) = (run.map fun w => count w.asked).foldl max (count d) := by
  induction run generalizing d with
  | nil => rfl
  | cons w run ih =>
    rw [widened, List.foldl_cons, Widening.perform_eq_join, List.map_cons, List.foldl_cons,
      ← hjoin]
    exact ih _

theorem toNat_beforeDigits_widened (d : DecimalSize) (run : List Widening) :
    (d.widened run).beforeDigits.toNat =
      (run.map fun w => w.asked.beforeDigits.toNat).foldl max d.beforeDigits.toNat :=
  count_widened (fun d => d.beforeDigits.toNat) toNat_beforeDigits_join d run

theorem toNat_scale_widened (d : DecimalSize) (run : List Widening) :
    (d.widened run).scale.toNat =
      (run.map fun w => w.asked.scale.toNat).foldl max d.scale.toNat :=
  count_widened (fun d => d.scale.toNat) toNat_scale_join d run

/-- Runs do not make a count smaller. -/
theorem count_le_widened (count : DecimalSize → Nat)
    (hjoin : ∀ d e, count (d.join e) = max (count d) (count e)) (d : DecimalSize)
    (run : List Widening) : count d ≤ count (d.widened run) := by
  induction run generalizing d with
  | nil => exact Nat.le_refl _
  | cons w run ih =>
    calc count d ≤ count (w.perform d) := by
          rw [Widening.perform_eq_join, hjoin]
          exact Nat.le_max_left _ _
      _ ≤ count (d.widened (w :: run)) := ih _

end DecimalSize

end SqlDialects
