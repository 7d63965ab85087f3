import Mathlib.Data.List.Basic
import Mathlib.Data.List.Induction
import SqlDialects.Proofs.Guess.Order
import SqlDialects.Proofs.Guess.Unicode

/-!
# Columns of mixed values

A column may hold texts and typed values side by side, which widen a guess in different ways.  What
has been guessed so far does not tell whether its truth values were words or typed, so the outcome
hangs on the order of the values.

* **Kinds.**  The kind of a column is a fold over the kinds of its values
  (`columnKind?_concat_of_some`), and every step makes room for what it is widened by, so that the
  column has room for the kinds of all its values (`hasRoomFor_columnKind?`).
* **Numbers.**  `TurnsNumeric` says of a list of values when its column is one of numbers, and
  `isNumeric_columnKind?_iff` that it decides this.
* **Digits.**  A column of numbers carries the digits of each value (`digits_le_of_mem`).
* **Truth words.**  `guessColumn_string_iff` — truth words and other values make a string unless the
  values turn numeric.
-/

set_option autoImplicit false

namespace SqlDialects

open Text

/-- Whether a value is a text. -/
def SqlValue.isText (v : SqlValue) : Bool := v.text?.isSome

/-! ## Runs -/

/-- The kind that a value is guessed as; none for null and blank text. -/
def guessKind? (settings : GuessSettings) (v : SqlValue) : Option TypeKind :=
  (guessValue settings v).map TypeRequest.kind

/-- What has been guessed for a column, before the last touch. -/
def observed (settings : GuessSettings) (values : List SqlValue) : Option TypeRequest :=
  values.foldl (basicWiden settings) none

/-- The kind that a column is guessed as; none if no value says anything. -/
def columnKind? (settings : GuessSettings) (values : List SqlValue) : Option TypeKind :=
  (observed settings values).map TypeRequest.kind

section Run

variable {settings : GuessSettings} {values : List SqlValue} {v : SqlValue}

/-- Null and blank text leave no trace. -/
theorem observed_concat_of_none (h : guessValue settings v = none) :
    observed settings (values ++ [v]) = observed settings values := by
  rw [observed, List.foldl_append, List.foldl_cons, List.foldl_nil, basicWiden, h, observed]
  cases values.foldl (basicWiden settings) none <;> rfl

/-- The first guess is taken as it is. -/
theorem observed_concat_of_first (h : observed settings values = none) :
    observed settings (values ++ [v]) = guessValue settings v := by
  rw [observed] at h
  rw [observed, List.foldl_append, List.foldl_cons, List.foldl_nil, basicWiden, h]
  cases guessValue settings v <;> rfl

/-- What a guess becomes when a further value is guessed. -/
theorem exists_basicWiden {a b : TypeRequest} (hb : guessValue settings v = some b) :
    ∃ r, basicWiden settings (some a) v = some r ∧
      r.kind = a.kind.widenBy b.kind v.isText ∧
      (r.kind ≠ .string → r.digits = a.digits.join b.digits) := by
  rw [basicWiden, hb, ← SqlValue.isText]
  cases v.isText with
  | true => exact ⟨_, rfl, kind_widenByText_eq a b, digits_widenByText⟩
  | false => exact ⟨_, rfl, TypeRequest.kind_widen a b, TypeRequest.digits_widen⟩

/-- **A guess goes on** from what has been guessed so far. -/
theorem observed_concat {a b : TypeRequest} (ha : observed settings values = some a)
    (hb : guessValue settings v = some b) :
    ∃ r, observed settings (values ++ [v]) = some r ∧
      r.kind = a.kind.widenBy b.kind v.isText ∧
      (r.kind ≠ .string → r.digits = a.digits.join b.digits) := by
  rw [observed] at ha
  rw [observed, List.foldl_append, List.foldl_cons, List.foldl_nil, ha]
  exact exists_basicWiden hb

theorem columnKind?_concat_of_none (h : guessKind? settings v = none) :
    columnKind? settings (values ++ [v]) = columnKind? settings values := by
  rw [columnKind?, observed_concat_of_none (Option.map_eq_none_iff.mp h), columnKind?]

theorem columnKind?_concat_of_some {k : TypeKind} (h : guessKind? settings v = some k) :
    columnKind? settings (values ++ [v]) =
      some (((columnKind? settings values).map (·.widenBy k v.isText)).getD k) := by
  obtain ⟨b, hb, rfl⟩ := Option.map_eq_some_iff.mp h
  rw [columnKind?, columnKind?]
  cases ha : observed settings values with
  | none => rw [observed_concat_of_first ha, hb]; rfl
  | some a =>
    obtain ⟨r, hr, hkind, -⟩ := observed_concat ha hb
    rw [hr]
    exact congrArg some hkind

/-- **The guess for a column** has the kind of the run over its values. -/
theorem map_kind_guessColumn (settings : GuessSettings) (values : List SqlValue) :
    (Guesser.basic.guessColumn settings values).map TypeRequest.kind =
      columnKind? settings values := by
  show ((observed settings values).map dropDigits).map TypeRequest.kind = _
  rw [columnKind?, Option.map_map]
  exact congrArg (fun f => Option.map f _) (funext kind_dropDigits)

theorem columnKind?_eq_none_iff :
    columnKind? settings values = none ↔ ∀ v ∈ values, guessKind? settings v = none := by
  induction values using List.reverseRecOn with
  | nil => simp [columnKind?, observed]
  | append_singleton values v ih =>
    rw [List.forall_mem_append, List.forall_mem_singleton]
    cases hv : guessKind? settings v with
    | none => simp [columnKind?_concat_of_none hv, ih]
    | some k => simp [columnKind?_concat_of_some hv]

/-- **A column has room for the kinds of all its values.** -/
theorem hasRoomFor_columnKind? {k : TypeKind} (h : columnKind? settings values = some k) :
    ∀ v ∈ values, ∀ j ∈ guessKind? settings v, k.hasRoomFor j = true := by
  induction values using List.reverseRecOn generalizing k with
  | nil => simp
  | append_singleton values v ih =>
    rw [List.forall_mem_append, List.forall_mem_singleton]
    cases hv : guessKind? settings v with
    | none =>
      rw [columnKind?_concat_of_none hv] at h
      exact ⟨ih h, by simp⟩
    | some j =>
      rw [columnKind?_concat_of_some hv] at h
      cases hsofar : columnKind? settings values with
      | none =>
        rw [hsofar] at h
        obtain rfl := Option.some.inj h
        refine ⟨fun w hw i hi => ?_, by simp⟩
        rw [columnKind?_eq_none_iff.mp hsofar w hw] at hi
        contradiction
      | some i =>
        rw [hsofar] at h
        obtain rfl := Option.some.inj h
        obtain ⟨hi, hj⟩ := TypeKind.hasRoomFor_widenBy i j v.isText
        exact ⟨fun w hw l hl => TypeKind.hasRoomFor_trans hi (ih hsofar w hw l hl),
          by simpa using hj⟩

/-- A column of truth values is one whose values are all truth values. -/
theorem columnKind?_bool_iff :
    (∀ k ∈ columnKind? settings values, k = .bool) ↔
      ∀ v ∈ values, ∀ k ∈ guessKind? settings v, k = .bool := by
  induction values using List.reverseRecOn with
  | nil => simp [columnKind?, observed]
  | append_singleton values v ih =>
    rw [List.forall_mem_append, List.forall_mem_singleton, ← ih]
    cases hv : guessKind? settings v with
    | none => simp [columnKind?_concat_of_none hv]
    | some k =>
      rw [columnKind?_concat_of_some hv]
      cases columnKind? settings values <;> simp [TypeKind.widenBy_eq_bool_iff]

/-! ## Columns of numbers -/

/-- **When a column is one of numbers.**  All that says anything is a number or a truth value.
Truth values may stand in front of the first number if that is no text, and behind it if they are no
texts themselves. -/
def TurnsNumeric (settings : GuessSettings) (values : List SqlValue) : Prop :=
  ∃ front number back, values = front ++ number :: back ∧
    (∀ v ∈ front, ∀ k ∈ guessKind? settings v, k = .bool) ∧
    (∃ k ∈ guessKind? settings number, k.isNumeric = true) ∧
    (number.isText = false ∨ ∀ v ∈ front, guessKind? settings v = none) ∧
    ∀ v ∈ back, ∀ k ∈ guessKind? settings v, k.isNumeric = true ∨ k = .bool ∧ v.isText = false

theorem turnsNumeric_concat :
    TurnsNumeric settings (values ++ [v]) ↔
      TurnsNumeric settings values ∧
          (∀ k ∈ guessKind? settings v, k.isNumeric = true ∨ k = .bool ∧ v.isText = false) ∨
        (∀ w ∈ values, ∀ k ∈ guessKind? settings w, k = .bool) ∧
          (∃ k ∈ guessKind? settings v, k.isNumeric = true) ∧
          (v.isText = false ∨ ∀ w ∈ values, guessKind? settings w = none) := by
  constructor
  · rintro ⟨front, number, back, h, hfront, hnumber, htyped, hback⟩
    rcases List.eq_nil_or_concat' back with rfl | ⟨back, last, rfl⟩
    · obtain ⟨rfl, hlast⟩ := List.append_inj' h rfl
      obtain rfl := List.singleton_inj.mp hlast
      exact .inr ⟨hfront, hnumber, htyped⟩
    · rw [← List.cons_append, ← List.append_assoc] at h
      obtain ⟨rfl, hlast⟩ := List.append_inj' h rfl
      obtain rfl := List.singleton_inj.mp hlast
      rw [List.forall_mem_append, List.forall_mem_singleton] at hback
      exact .inl ⟨⟨front, number, back, rfl, hfront, hnumber, htyped, hback.1⟩, hback.2⟩
  · rintro (⟨⟨front, number, back, rfl, hfront, hnumber, htyped, hback⟩, hv⟩ |
      ⟨hfront, hnumber, htyped⟩)
    · refine ⟨front, number, back ++ [v], by simp, hfront, hnumber, htyped, ?_⟩
      rw [List.forall_mem_append, List.forall_mem_singleton]
      exact ⟨hback, hv⟩
    · exact ⟨values, v, [], rfl, hfront, hnumber, htyped, by simp⟩

/-- **The kind of a column is numeric just when its values turn numeric.** -/
theorem isNumeric_columnKind?_iff :
    (∃ k ∈ columnKind? settings values, k.isNumeric = true) ↔ TurnsNumeric settings values := by
  induction values using List.reverseRecOn with
  | nil =>
    refine iff_of_false (by simp [columnKind?, observed]) ?_
    rintro ⟨front, number, back, h, -⟩
    simp at h
  | append_singleton values v ih =>
    rw [turnsNumeric_concat, ← ih, ← columnKind?_bool_iff, ← columnKind?_eq_none_iff]
    cases hv : guessKind? settings v with
    | none => simp [columnKind?_concat_of_none hv]
    | some k =>
      rw [columnKind?_concat_of_some hv]
      cases columnKind? settings values with
      | none => simp
      | some j => simp [TypeKind.isNumeric_widenBy_iff]

/-- A column of numbers carries the digits of each of its values. -/
theorem digits_le_of_mem {r g : TypeRequest} (h : observed settings values = some r)
    (hstring : r.kind ≠ .string) (hv : v ∈ values) (hg : guessValue settings v = some g) :
    g.digits.beforeDigits.toNat ≤ r.digits.beforeDigits.toNat := by
  induction values using List.reverseRecOn generalizing r with
  | nil => contradiction
  | append_singleton values last ih =>
    rw [List.mem_append, List.mem_singleton] at hv
    cases hb : guessValue settings last with
    | none =>
      -- a value without a guess changes nothing
      rw [observed_concat_of_none hb] at h
      rcases hv with hv | rfl
      · exact ih h hstring hv
      · rw [hb] at hg
        contradiction
    | some b =>
      cases ha : observed settings values with
      | none =>
        rw [observed_concat_of_first ha, hb] at h
        obtain rfl := Option.some.inj h
        rcases hv with hv | rfl
        · have hnone := columnKind?_eq_none_iff.mp (Option.map_eq_none_iff.mpr ha) v hv
          rw [guessKind?, hg] at hnone
          contradiction
        · rw [Option.some.inj (hg.symm.trans hb)]
      | some a =>
        obtain ⟨r', hr', hkind, hdigits⟩ := observed_concat ha hb
        obtain rfl := Option.some.inj (hr'.symm.trans h)
        have hjoin := DecimalSize.toNat_beforeDigits_join a.digits b.digits
        rw [hdigits hstring, hjoin]
        rcases hv with hv | rfl
        · -- the column was one of numbers before the last value too
          have hroom := (TypeKind.hasRoomFor_widenBy a.kind b.kind last.isText).1
          rw [← hkind] at hroom
          exact (ih ha (TypeKind.ne_string_of_hasRoomFor hroom hstring) hv).trans
            (Nat.le_max_left _ _)
        · rw [Option.some.inj (hg.symm.trans hb)]
          exact Nat.le_max_right _ _

/-! ## Truth words -/

/-- Truth words are guessed as truth values. -/
theorem guessKind?_of_saysTruth {text : String} (h : saysTruth text = true) :
    guessKind? settings (.text text) = some .bool := by
  have hblank : isBlankText text = false := by
    by_contra hblank
    rw [Bool.not_eq_false, isBlankText, ← trim_eq_nil_iff] at hblank
    rw [saysTruth, hblank] at h
    exact absurd h (by decide)
  have hkind : (guessOf settings text).kind = .bool :=
    (guessOf_kind_eq_bool_iff settings text).mpr h
  rw [guessKind?, guessValue, guessText_eq, hblank, if_neg Bool.false_ne_true, Option.map_some,
    hkind]

/-- **When truth words and other values make a string.**  They always make a string or a number,
and a number just if the values turn numeric: since a truth word stands among them, just if nothing
but truth values and numbers is there, the first number is no text, and no truth word stands behind
it. -/
theorem guessColumn_string_iff (htruth : ∃ text, .text text ∈ values ∧ saysTruth text = true)
    (hother : ∃ v ∈ values, ∃ k ∈ guessKind? settings v, k ≠ .bool) :
    ∃ r, Guesser.basic.guessColumn settings values = some r ∧
      (r.kind = .string ∨ r.kind.isNumeric = true) ∧
      (r.kind = .string ↔ ¬TurnsNumeric settings values) := by
  obtain ⟨text, htext, hsays⟩ := htruth
  obtain ⟨v, hv, k, hk, hne⟩ := hother
  have hguess := map_kind_guessColumn settings values
  cases hkind : columnKind? settings values with
  | none =>
    rw [columnKind?_eq_none_iff.mp hkind v hv] at hk
    contradiction
  | some j =>
    rw [hkind] at hguess
    obtain ⟨r, hr, rfl⟩ := Option.map_eq_some_iff.mp hguess
    have hroom := hasRoomFor_columnKind? hkind
    have hcases : r.kind = .string ∨ r.kind.isNumeric = true :=
      TypeKind.eq_string_or_isNumeric_of_hasRoomFor
        (hroom _ htext _ (guessKind?_of_saysTruth hsays)) (hroom v hv k hk) hne
    have hturns : TurnsNumeric settings values ↔ r.kind.isNumeric = true := by
      rw [← isNumeric_columnKind?_iff, hkind]
      simp
    refine ⟨r, hr, hcases, ?_⟩
    rw [hturns]
    exact ⟨fun hstring => by simp [hstring, TypeKind.isNumeric, TypeKind.numericRank],
      fun hnumber => hcases.resolve_right hnumber⟩

end Run

/-- A typed number between truth words. -/
theorem guessColumn_string_number_between :
    ∃ r, Guesser.basic.guessColumn {} [.text " True", .null, .int32 5, .text "false"] = some r ∧
      r.kind = .string ∧ ¬TurnsNumeric {} [.text " True", .null, .int32 5, .text "false"] := by
  obtain ⟨r, hr, -, hiff⟩ := @guessColumn_string_iff {}
    [.text " True", .null, .int32 5, .text "false"]
    ⟨" True", by simp, by decide⟩ ⟨.int32 5, by simp, .int32, rfl, by decide⟩
  have hguess : Guesser.basic.guessColumn {} [.text " True", .null, .int32 5, .text "false"] =
      some (stringOf 5 false) := by decide
  have hstring : r.kind = .string := by
    rw [← Option.some.inj (hguess.symm.trans hr)]
    rfl
  exact ⟨r, hr, hstring, hiff.mp hstring⟩

/-- A truth word in front of a typed number becomes one. -/
theorem guessColumn_number_behind_truth :
    saysTruth "true" = true ∧ guessKind? {} (.int32 5) = some .int32 ∧
      Guesser.basic.guessColumn {} [.text "true", .int32 5] = some (.ofKind .int32) := by
  decide

end SqlDialects
