import Mathlib.Data.List.Forall2
import Mathlib.Order.Bounds.Basic
import Mathlib.Order.Lattice
import SqlDialects.Proofs.DecimalSize.Widening

/-!
# Sizes as a semilattice

A size is below another one if both of its counts are, and an absent count is below every other.  In
this order the join of two sizes is their least upper bound (`join_le_iff`), so sizes are a
semilattice, and the laws of `combine` are those of suprema.  A run of widenings ends in the least
size above the one that it began with and all those that it asked for (`widened_le_iff`), and a
least upper bound does not know in which order things were asked for.

Two sizes may be equal up to absent counts and still be different.  Nothing here is meant up to that
equality, but joining respects it (`Alike.join`), and so does everything that comes to joining.
-/

set_option autoImplicit false

namespace SqlDialects

theorem word_max_le_iff (a b c : UInt32) : max a b ≤ c ↔ a ≤ c ∧ b ≤ c := by
  rw [UInt32.le_iff_toNat_le, UInt32.le_iff_toNat_le, UInt32.le_iff_toNat_le, toNat_max]
  exact Nat.max_le

namespace DecimalSize

/-! ## Counts -/

theorem count_le_refl (a : Option UInt32) : a ≤ a := by
  cases a with
  | none => exact Option.none_le
  | some a => exact Option.some_le_some.mpr (UInt32.le_refl a)

theorem count_le_trans {a b c : Option UInt32} (hab : a ≤ b) (hbc : b ≤ c) : a ≤ c := by
  cases a with
  | none => exact Option.none_le
  | some a =>
    cases b with
    | none => exact absurd hab Option.not_some_le_none
    | some b =>
      cases c with
      | none => exact absurd hbc Option.not_some_le_none
      | some c =>
        rw [Option.some_le_some] at hab hbc ⊢
        exact UInt32.le_trans hab hbc

theorem count_le_antisymm {a b : Option UInt32} (hab : a ≤ b) (hba : b ≤ a) : a = b := by
  cases a with
  | none => exact (Option.le_none.mp hba).symm
  | some a =>
    cases b with
    | none => exact absurd hab Option.not_some_le_none
    | some b =>
      rw [Option.some_le_some] at hab hba
      rw [UInt32.le_antisymm hab hba]

theorem maxDigits_le_iff {a b c : Option UInt32} : maxDigits a b ≤ c ↔ a ≤ c ∧ b ≤ c := by
  have hmax : maxDigits a b = max a b := by
    cases a <;> cases b <;> rfl
  rw [hmax]
  exact Option.max_le word_max_le_iff

/-! ## The order of sizes -/

/-- Both counts are below those of the other size; an absent one is below every other. -/
instance : LE DecimalSize := ⟨fun d e => d.before ≤ e.before ∧ d.after ≤ e.after⟩

/-- **The join is the least upper bound.** -/
theorem join_le_iff {d e f : DecimalSize} : d.join e ≤ f ↔ d ≤ f ∧ e ≤ f := by
  constructor
  · rintro ⟨hbefore, hafter⟩
    obtain ⟨hd, he⟩ := maxDigits_le_iff.mp hbefore
    obtain ⟨hd', he'⟩ := maxDigits_le_iff.mp hafter
    exact ⟨⟨hd, hd'⟩, ⟨he, he'⟩⟩
  · rintro ⟨⟨hd, hd'⟩, ⟨he, he'⟩⟩
    exact ⟨maxDigits_le_iff.mpr ⟨hd, he⟩, maxDigits_le_iff.mpr ⟨hd', he'⟩⟩

instance : PartialOrder DecimalSize where
  le_refl _ := ⟨count_le_refl _, count_le_refl _⟩
  le_trans _ _ _ hde hef := ⟨count_le_trans hde.1 hef.1, count_le_trans hde.2 hef.2⟩
  le_antisymm := by
    rintro ⟨b, a⟩ ⟨b', a'⟩ ⟨hb, ha⟩ ⟨hb', ha'⟩
    have hbefore : b = b' := count_le_antisymm hb hb'
    have hafter : a = a' := count_le_antisymm ha ha'
    rw [hbefore, hafter]

instance : SemilatticeSup DecimalSize where
  sup := join
  le_sup_left _ _ := (join_le_iff.mp le_rfl).1
  le_sup_right _ _ := (join_le_iff.mp le_rfl).2
  sup_le _ _ _ hd he := join_le_iff.mpr ⟨hd, he⟩

theorem join_eq_sup (d e : DecimalSize) : d.join e = d ⊔ e := rfl

/-! ## Joining what is there -/

theorem combine_none (a : Option DecimalSize) : combine a none = a := by
  cases a <;> rfl

theorem none_combine (a : Option DecimalSize) : combine none a = a := by
  cases a <;> rfl

theorem combine_comm (a b : Option DecimalSize) : combine a b = combine b a := by
  cases a with
  | none => rw [combine_none, none_combine]
  | some d =>
    cases b with
    | none => rfl
    | some e => exact congrArg some (sup_comm d e)

theorem combine_assoc (a b c : Option DecimalSize) :
    combine (combine a b) c = combine a (combine b c) := by
  cases a with
  | none => rw [none_combine, none_combine]
  | some d =>
    cases b with
    | none => rw [combine_none, none_combine]
    | some e =>
      cases c with
      | none => rfl
      | some f => exact congrArg some (sup_assoc d e f)

theorem combine_self (a : Option DecimalSize) : combine a a = a := by
  cases a with
  | none => rfl
  | some d => exact congrArg some (sup_idem d)

/-! ## Runs of widenings -/

/-- **A run ends in a size below another one** just when the size that it began with is, and all
those that it asked for are. -/
theorem widened_le_iff {d e : DecimalSize} {run : List Widening} :
    d.widened run ≤ e ↔ d ≤ e ∧ ∀ w ∈ run, w.asked ≤ e := by
  induction run generalizing d with
  | nil => simp [widened]
  | cons w run ih =>
    have hstep : d.widened (w :: run) = (d.join w.asked).widened run := by
      rw [widened, List.foldl_cons, Widening.perform_eq_join]
      rfl
    rw [hstep, ih, join_le_iff, List.forall_mem_cons, and_assoc]

theorem isLUB_widened (d : DecimalSize) (run : List Widening) :
    IsLUB (insert d {e | ∃ w ∈ run, w.asked = e}) (d.widened run) := by
  refine isLUB_iff_le_iff.mpr fun e => ?_
  rw [widened_le_iff, upperBounds_insert, Set.mem_inter_iff, Set.mem_Ici, mem_upperBounds]
  refine and_congr_right fun _ => ⟨?_, fun h w hw => h _ ⟨w, hw, rfl⟩⟩
  rintro h _ ⟨w, hw, rfl⟩
  exact h w hw

/-- A run that goes on does not make the size smaller. -/
theorem widened_le_of_prefix (d : DecimalSize) {done run : List Widening} (h : done <+: run) :
    d.widened done ≤ d.widened run := by
  obtain ⟨later, rfl⟩ := h
  rw [widened_append]
  exact (widened_le_iff.mp le_rfl).1

theorem widened_perm (d : DecimalSize) {run other : List Widening} (h : run.Perm other) :
    d.widened run = d.widened other := by
  refine eq_of_forall_ge_iff fun e => ?_
  rw [widened_le_iff, widened_le_iff]
  exact and_congr_right fun _ => forall_congr' fun w => imp_congr_left h.mem_iff

/-! ## Equality up to absent counts -/

/-- The two sizes differ at most in that one has no count where the other has the count 0. -/
def Alike (d e : DecimalSize) : Prop := d.same e = true

theorem Alike.join {d d' e e' : DecimalSize} (hd : d.Alike d') (he : e.Alike e') :
    (d.join e).Alike (d'.join e') := by
  rw [Alike, same_iff] at hd he ⊢
  rw [← UInt32.toNat_inj, ← UInt32.toNat_inj, toNat_beforeDigits_join, toNat_beforeDigits_join,
    toNat_scale_join, toNat_scale_join, hd.1, hd.2, he.1, he.2]
  exact ⟨rfl, rfl⟩

theorem Alike.combine {a a' b b' : Option DecimalSize} (ha : Option.Rel Alike a a')
    (hb : Option.Rel Alike b b') : Option.Rel Alike (combine a b) (combine a' b') := by
  cases ha with
  | none =>
    rw [none_combine, none_combine]
    exact hb
  | some hd =>
    cases hb with
    | none => exact .some hd
    | some he => exact .some (hd.join he)

theorem Alike.widened {d d' : DecimalSize} {run run' : List Widening} (hd : d.Alike d')
    (hrun : List.Forall₂ (fun w w' => w.asked.Alike w'.asked) run run') :
    (d.widened run).Alike (d'.widened run') := by
  induction hrun generalizing d d' with
  | nil => exact hd
  | @cons w w' run run' hw _ ih =>
    apply ih
    rw [Widening.perform_eq_join, Widening.perform_eq_join]
    exact hd.join hw

/-! ## All of it -/

/-- **Widening is joining.**  Two sizes are combined, or one is widened by the other, to their least
upper bound, and so combining is commutative, associative and idempotent and leaves a size alone if
there is no other.  A run of widenings ends in the least upper bound of the size that it began with
and those that it asked for: on its way the size does not become smaller, and the order is of no
account.  What is equal up to absent counts stays so under all of this. -/
theorem combine_widened_joins :
    (∀ d e : DecimalSize, combine (some d) (some e) = some (d.widenBy e) ∧
      IsLUB {d, e} (d.widenBy e)) ∧
    (∀ a b c : Option DecimalSize, combine a b = combine b a ∧
      combine (combine a b) c = combine a (combine b c) ∧
      combine a a = a ∧ combine a none = a ∧ combine none a = a) ∧
    (∀ (d : DecimalSize) (run : List Widening),
      IsLUB (insert d {e | ∃ w ∈ run, w.asked = e}) (d.widened run) ∧
      (∀ done, done <+: run → d.widened done ≤ d.widened run) ∧
      ∀ other, run.Perm other → d.widened run = d.widened other) ∧
    (∀ a a' b b' : Option DecimalSize, Option.Rel Alike a a' → Option.Rel Alike b b' →
      Option.Rel Alike (combine a b) (combine a' b')) ∧
    ∀ (d d' : DecimalSize) (run run' : List Widening), d.Alike d' →
      List.Forall₂ (fun w w' => w.asked.Alike w'.asked) run run' →
      (d.widened run).Alike (d'.widened run') := by
  refine ⟨fun d e => ?_, fun a b c => ?_, fun d run => ?_, fun _ _ _ _ => Alike.combine,
    fun _ _ _ _ => Alike.widened⟩
  · rw [widenBy_eq_join]
    exact ⟨rfl, isLUB_pair⟩
  · exact ⟨combine_comm a b, combine_assoc a b c, combine_self a, combine_none a, none_combine a⟩
  · exact ⟨isLUB_widened d run, fun _ => widened_le_of_prefix d, fun _ => widened_perm d⟩

/-- Widenings of all three kinds, the last of them moved to the front; and two runs that differ in
what is absent and what is 0. -/
theorem combine_widened_joins_in_two_orders :
    ([.front 3, .both (-1) 2, .cover ⟨none, some 5⟩] : List Widening).Perm
      [.cover ⟨none, some 5⟩, .front 3, .both (-1) 2] ∧
    ({} : DecimalSize).widened [.front 3, .both (-1) 2, .cover ⟨none, some 5⟩] =
      ⟨some 3, some 5⟩ ∧
    ({} : DecimalSize).widened [.cover ⟨none, some 5⟩, .front 3, .both (-1) 2] =
      ⟨some 3, some 5⟩ ∧
    (({} : DecimalSize).widened [.front 3]).Alike ((ofDigits 0 0).widened [.both 3 0]) := by
  have hperm : ([.front 3, .both (-1) 2, .cover ⟨none, some 5⟩] : List Widening).Perm
      [.cover ⟨none, some 5⟩, .front 3, .both (-1) 2] := by decide
  have hrun : ({} : DecimalSize).widened [.front 3, .both (-1) 2, .cover ⟨none, some 5⟩] =
      ⟨some 3, some 5⟩ := by decide
  obtain ⟨-, -, hruns, -, halike⟩ := combine_widened_joins
  refine ⟨hperm, hrun, ?_, halike _ _ _ _ rfl (.cons rfl .nil)⟩
  rw [← (hruns {} _).2.2 _ hperm, hrun]

end DecimalSize

end SqlDialects
