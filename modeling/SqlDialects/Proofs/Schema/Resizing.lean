import SqlDialects.Proofs.Schema.Alteration
import SqlDialects.Proofs.TypeName.Reading
import SqlDialects.Proofs.TypeName.RoundTrip

/-!
# Resizing never narrows a column

A column is resized by asking for a number of characters or for numbers of digits.  What the call
does is decided by the type that is remembered, before anything is said to the engine.

* **`Resizing.IsRefused`** — too little is asked for, or the type is of the wrong kind.  Nothing is
  sent.
* **`Resizing.IsPresent`** — the type has the size already.  Nothing is sent either.
* **`Resizing.IsReached`** — otherwise the type is declared anew, and reading it back gives the size
  that was asked for.  This is the round trip of `SqlDialects.Proofs.TypeName.RoundTrip`.

`Resizing.KeepsRules` puts these together for one call.  Types that are at least as wide as others
form a preorder (`ColumnType.IsAtLeast`), and every call moves upwards in it, so a run of calls does
(`resizeSteps_never_narrow`).

There is one exception.  A refusal tells the digits of both sizes, and those of the type itself need
not be countable.  Then the program stops where it should refuse the call
(`Resizing.IsUncountable`), though still without a word to the engine.
-/

set_option autoImplicit false

namespace SqlDialects

open Text

/-! ## Calls -/

/-- A call that resizes a column. -/
inductive Resizing where
  /-- To a number of characters. -/
  | toWidth (width : UInt32)
  /-- To numbers of digits before and after the point. -/
  | toDigits (before after : UInt32)
deriving DecidableEq, Repr, Inhabited

namespace ColumnType

/-- Whether the type is that of unicode text. -/
def isUnicode (ct : ColumnType) : Bool := ct.dialect.isUnicode ct.sqlType

/-- Carries out a call; nothing if digits cannot be counted. -/
def perform? (ct : ColumnType) (call : Resizing) (transaction : Option Transaction) :
    Option (Program (Except SqlError Unit × ColumnType)) :=
  match call with
  | .toWidth width => some (ct.resize width transaction)
  | .toDigits before after => ct.resizeDecimal? before after transaction

end ColumnType

namespace Resizing

/-- The digits asked for can be counted in 32 bits. -/
def IsCountable : Resizing → Prop
  | toWidth _ => True
  | toDigits before after => before.toNat + after.toNat < 4294967296

instance (call : Resizing) : Decidable call.IsCountable :=
  match call with
  | toWidth _ => inferInstanceAs (Decidable True)
  | toDigits before after => inferInstanceAs (Decidable (before.toNat + after.toNat < 4294967296))

/-- The type is of another kind, or less is asked for than it has. -/
def IsRefused (call : Resizing) (ct : ColumnType) : Prop :=
  match call with
  | toWidth width => ct.kind? ≠ some .string ∨ (width.toNat : Int) < ct.length
  | toDigits before after =>
    (∀ kind, ct.kind? = some kind → ct.dialect.isNumberKind kind = false) ∨
      ct.decimalSize = none ∨
      ∃ size, ct.decimalSize = some size ∧ (before < size.beforeDigits ∨ after < size.scale)

/-- Fewer digits are asked for than the type has, and those cannot be counted. -/
def IsUncountable (call : Resizing) (ct : ColumnType) : Prop :=
  match call with
  | toWidth _ => False
  | toDigits before after =>
    ∃ size, ct.decimalSize = some size ∧ ¬ size.IsRepresentable ∧
      (before < size.beforeDigits ∨ after < size.scale)

/-- Just what the type has is asked for. -/
def IsPresent (call : Resizing) (ct : ColumnType) : Prop :=
  match call with
  | toWidth width => ct.kind? = some .string ∧ ct.length = width.toNat
  | toDigits before after =>
    ∃ size, ct.decimalSize = some size ∧ size.beforeDigits = before ∧ size.scale = after

/-- The type that was `ct` has become what was asked for.  Beyond the greatest width that is
declared inline there is no limit. -/
def IsReached (call : Resizing) (ct after : ColumnType) : Prop :=
  match call with
  | toWidth width =>
    after.length = (if width ≤ ct.dialect.types.ceiling ct.isUnicode then (width.toNat : Int)
      else unlimitedLength) ∧ after.isUnicode = ct.isUnicode
  | toDigits before behind => after.decimalSize = some ⟨some before, some behind⟩

/-- **The rules of resizing**, for a call on the type `ct` that leaves the type `after`. -/
structure KeepsRules (call : Resizing) (ct : ColumnType) (outcome : Except SqlError Unit)
    (after : ColumnType) (trace : List Exchange) : Prop where
  refused : call.IsRefused ct → (∃ fault, outcome = .error (.resize fault)) ∧ trace = []
  present : call.IsPresent ct → outcome = .ok () ∧ trace = [] ∧ after = ct
  reached : outcome = .ok () → ¬ call.IsPresent ct → call.IsReached ct after
  failed : ∀ e, outcome = .error e → after = ct

variable {call : Resizing} {ct after : ColumnType}

/-- For a type that has digits, only fewer digits are refused. -/
theorem isRefused_toDigits_iff {before behind : UInt32} {size : DecimalSize}
    (hsize : ct.decimalSize = some size) :
    IsRefused (.toDigits before behind) ct ↔ before < size.beforeDigits ∨ behind < size.scale := by
  constructor
  · rintro (hkind | hnone | ⟨size', hsize', hless⟩)
    · obtain ⟨kind, hsome, hnumber⟩ := isNumberKind_of_decimalSizeOf hsize
      rw [hkind kind hsome] at hnumber
      contradiction
    · rw [hnone] at hsize
      contradiction
    · obtain rfl := Option.some.inj (hsize.symm.trans hsize')
      exact hless
  · exact fun hless => .inr (.inr ⟨size, hsize, hless⟩)

theorem isUncountable_toDigits_iff {before behind : UInt32} {size : DecimalSize}
    (hsize : ct.decimalSize = some size) :
    IsUncountable (.toDigits before behind) ct ↔
      ¬ size.IsRepresentable ∧ (before < size.beforeDigits ∨ behind < size.scale) := by
  constructor
  · rintro ⟨size', hsize', h⟩
    obtain rfl := Option.some.inj (hsize.symm.trans hsize')
    exact h
  · exact fun h => ⟨size, hsize, h⟩

/-- A call whose digits cannot be counted should have been refused. -/
theorem IsUncountable.isRefused (h : call.IsUncountable ct) : call.IsRefused ct := by
  cases call with
  | toWidth width => exact h.elim
  | toDigits before behind =>
    obtain ⟨size, hsize, -, hless⟩ := h
    exact (isRefused_toDigits_iff hsize).mpr hless

theorem isPresent_toDigits_iff {before behind : UInt32} {size : DecimalSize}
    (hsize : ct.decimalSize = some size) :
    IsPresent (.toDigits before behind) ct ↔
      DecimalSize.same ⟨some before, some behind⟩ size = true := by
  rw [DecimalSize.same_iff]
  constructor
  · rintro ⟨size', hsize', rfl, rfl⟩
    obtain rfl := Option.some.inj (hsize.symm.trans hsize')
    exact ⟨rfl, rfl⟩
  · rintro ⟨hbefore, hbehind⟩
    exact ⟨size, hsize, hbefore.symm, hbehind.symm⟩

theorem not_isPresent_of_isRefused (h : call.IsRefused ct) : ¬ call.IsPresent ct := by
  cases call with
  | toWidth width =>
    rintro ⟨hstring, hlength⟩
    rcases h with hkind | hless
    · exact hkind hstring
    · omega
  | toDigits before behind =>
    rintro ⟨size, hsize, rfl, rfl⟩
    rcases (isRefused_toDigits_iff hsize).mp h with hless | hless
    · exact UInt32.lt_irrefl _ hless
    · exact UInt32.lt_irrefl _ hless

theorem KeepsRules.of_isRefused (h : call.IsRefused ct) (fault : ResizeFault) :
    call.KeepsRules ct (.error (.resize fault)) ct [] where
  refused _ := ⟨⟨fault, rfl⟩, rfl⟩
  present hpresent := absurd hpresent (not_isPresent_of_isRefused h)
  reached := by simp
  failed _ _ := rfl

theorem KeepsRules.of_isPresent (h : call.IsPresent ct) : call.KeepsRules ct (.ok ()) ct [] where
  refused hrefused := absurd h (not_isPresent_of_isRefused hrefused)
  present _ := ⟨rfl, rfl, rfl⟩
  reached _ hnot := absurd h hnot
  failed := by simp

/-- A type that is declared anew keeps the rules, if the new type is what was asked for. -/
theorem KeepsRules.of_alterTo {newType : String} {transaction : Option Transaction}
    (hrefused : ¬ call.IsRefused ct) (hpresent : ¬ call.IsPresent ct)
    (hreached : call.IsReached ct { ct with sqlType := newType }) :
    (ct.alterTo newType transaction).Ensures fun (outcome, after) trace =>
      call.KeepsRules ct outcome after trace := by
  refine (ct.alterTo_remembers newType transaction).mono fun (outcome, after) trace h => ?_
  rcases h with ⟨houtcome, hafter⟩ | ⟨e, h⟩
  · obtain rfl : outcome = .ok () := houtcome
    obtain rfl : after = { ct with sqlType := newType } := hafter
    exact
      { refused := fun h => absurd h hrefused
        present := fun h => absurd h hpresent
        reached := fun _ _ => hreached
        failed := by simp }
  · obtain ⟨rfl, rfl⟩ := Prod.mk.inj h
    exact
      { refused := fun h => absurd h hrefused
        present := fun h => absurd h hpresent
        reached := by simp
        failed := fun _ _ => rfl }

end Resizing

/-! ## Widths -/

namespace ColumnType

open Resizing

/-- Whether a dialect marks unicode or not, a type for unicode text is declared for a type of
unicode text only. -/
theorem marksUnicode_and_isUnicode (dialect : Dialect) (sqlType : String) :
    (dialect.marksUnicode && dialect.isUnicode sqlType) = dialect.isUnicode sqlType := by
  cases dialect <;> rfl

/-- The type that is declared for a width has it. -/
theorem isReached_declare_string (ct : ColumnType) {width : UInt32} (hpos : 1 ≤ width.toNat) :
    IsReached (.toWidth width) ct
      { ct with
        sqlType :=
          ct.dialect.declare { TypeRequest.string width with unicode := ct.isUnicode } } := by
  constructor
  · refine (stringLength_declareString ct.dialect (some width) ct.isUnicode).trans ?_
    rw [TypeStyle.inlineWidth, Option.filter_some]
    by_cases hinline : width ≤ ct.dialect.types.ceiling ct.isUnicode
    · have hmax : (max width 1).toNat = width.toNat := by
        rw [toNat_max]
        exact Nat.max_eq_left hpos
      simp [hinline, hmax]
    · simp [hinline]
  · refine (isUnicode_declareString ct.dialect (some width) ct.isUnicode).trans ?_
    exact marksUnicode_and_isUnicode ct.dialect ct.sqlType

theorem resize_keepsRules (ct : ColumnType) (width : UInt32) (transaction : Option Transaction) :
    (ct.resize width transaction).Ensures fun (outcome, after) trace =>
      KeepsRules (.toWidth width) ct outcome after trace := by
  rw [resize]
  simp only
  split
  · next hlength =>
    have hrefused : IsRefused (.toWidth width) ct :=
      Or.inl (stringLength_eq_notAString_iff.mp hlength)
    exact .done (.of_isRefused hrefused _)
  next hlength =>
  have hstring : ct.kind? = some .string := Decidable.not_not.mp fun hkind =>
    hlength (stringLength_eq_notAString_iff.mpr hkind)
  split
  · next hsame =>
    have hpresent : IsPresent (.toWidth width) ct := ⟨hstring, hsame.symm⟩
    exact .done (.of_isPresent hpresent)
  next hsame =>
  split
  · next hless =>
    have hrefused : IsRefused (.toWidth width) ct := Or.inr hless
    exact .done (.of_isRefused hrefused _)
  next hless =>
  have hnonneg : 0 ≤ ct.length := stringLength_nonneg hstring
  refine .of_alterTo ?_ ?_ (isReached_declare_string ct (by omega))
  · rintro (hkind | hless')
    · exact hkind hstring
    · exact hless hless'
  · rintro ⟨-, hsame'⟩
    exact hsame hsame'.symm

/-! ## Digits -/

/-- A size is declared as it is, unless it is empty or its digits are too many. -/
theorem declared_some {d : DecimalSize} (h : d.IsRepresentable)
    (hpos : 0 < d.beforeDigits.toNat + d.scale.toNat) : DecimalSize.declared (some d) = d := by
  have hne : d.isEmpty = false := by
    rw [DecimalSize.isEmpty, beq_eq_false_iff_ne]
    intro hzero
    have hprecision := DecimalSize.toNat_precision h
    rw [hzero] at hprecision
    exact absurd hprecision (Nat.ne_of_lt hpos)
  rw [DecimalSize.declared, Option.filter_some, if_pos (by simp [hne]), Option.getD_some]

theorem decimalSizeOf_declare (dialect : Dialect) {before behind : UInt32}
    (h : before.toNat + behind.toNat < 4294967296) (hpos : 0 < before.toNat + behind.toNat) :
    dialect.decimalSizeOf (dialect.declare (.decimal ⟨some before, some behind⟩)) =
      some ⟨some before, some behind⟩ := by
  have hd : DecimalSize.IsRepresentable ⟨some before, some behind⟩ := h
  refine (decimalSizeOf_declareDecimal dialect (some ⟨some before, some behind⟩)).trans ?_
  rw [declared_some hd hpos]
  obtain ⟨hbefore, hbehind⟩ := DecimalSize.same_iff.mp (DecimalSize.ofPrecisionScale_same hd)
  exact congrArg some
    ((DecimalSize.mk.injEq ..).mpr ⟨congrArg some hbefore, congrArg some hbehind⟩)

/-- Digits that are no fewer than others, and not the same, are not none. -/
theorem digits_pos {before behind : UInt32} {size : DecimalSize}
    (hless : ¬(before < size.beforeDigits ∨ behind < size.scale))
    (hsame : ¬DecimalSize.same ⟨some before, some behind⟩ size = true) :
    0 < before.toNat + behind.toNat := by
  simp only [not_or, UInt32.not_lt, UInt32.le_iff_toNat_le] at hless
  refine Nat.pos_of_ne_zero fun hzero => hsame (DecimalSize.same_iff.mpr ?_)
  refine ⟨UInt32.toNat_inj.mp (show before.toNat = size.beforeDigits.toNat from ?_),
    UInt32.toNat_inj.mp (show behind.toNat = size.scale.toNat from ?_)⟩ <;> omega

theorem resizeDecimal_keepsRules (ct : ColumnType) {before behind : UInt32}
    (h : before.toNat + behind.toNat < 4294967296) (transaction : Option Transaction) :
    (ct.resizeDecimal before behind transaction).Ensures fun (outcome, after) trace =>
      KeepsRules (.toDigits before behind) ct outcome after trace := by
  rw [resizeDecimal]
  split
  · next hnone =>
    have hrefused : IsRefused (.toDigits before behind) ct := Or.inr (Or.inl hnone)
    exact .done (.of_isRefused hrefused _)
  next size hsize =>
  simp only [Bool.or_eq_true, decide_eq_true_eq]
  split
  · next hless => exact .done (.of_isRefused ((isRefused_toDigits_iff hsize).mpr hless) _)
  next hless =>
  split
  · next hsame => exact .done (.of_isPresent ((isPresent_toDigits_iff hsize).mpr hsame))
  next hsame =>
  refine .of_alterTo ?_ ?_ (decimalSizeOf_declare ct.dialect h (digits_pos hless hsame))
  · exact fun hrefused => hless ((isRefused_toDigits_iff hsize).mp hrefused)
  · exact fun hpresent => hsame ((isPresent_toDigits_iff hsize).mp hpresent)

/-- **A call for countable digits** comes to what it should, unless it is refused for digits that
cannot be counted. -/
theorem resizeDecimal?_cases (ct : ColumnType) {before behind : UInt32}
    (h : before.toNat + behind.toNat < 4294967296) (transaction : Option Transaction) :
    (IsUncountable (.toDigits before behind) ct ∧
        ct.resizeDecimal? before behind transaction = none) ∨
      (¬ IsUncountable (.toDigits before behind) ct ∧
        ct.resizeDecimal? before behind transaction =
          some (ct.resizeDecimal before behind transaction)) := by
  have hrequested : DecimalSize.IsRepresentable ⟨some before, some behind⟩ := h
  rw [resizeDecimal?, resizeDecimal]
  cases hsize : ct.decimalSize with
  | none =>
    refine .inr ⟨?_, rfl⟩
    rintro ⟨size, hsome, -⟩
    rw [hsize] at hsome
    contradiction
  | some current =>
    rw [isUncountable_toDigits_iff hsize]
    by_cases hless : before < current.beforeDigits ∨ behind < current.scale
    · by_cases hcounted : current.IsRepresentable
      · refine .inr ⟨fun hmany => hmany.1 hcounted, ?_⟩
        simp [hless, DecimalSize.precision?_eq, hcounted, hrequested]
      · refine .inl ⟨⟨hcounted, hless⟩, ?_⟩
        simp [hless, DecimalSize.precision?_eq, hcounted]
    · refine .inr ⟨fun hmany => hless hmany.2, ?_⟩
      have hdeclare : ct.dialect.declare? (.decimal ⟨some before, some behind⟩) =
          some (ct.dialect.declare (.decimal ⟨some before, some behind⟩)) :=
        declare?_eq_some ct.dialect (by rintro _ ⟨⟩; exact hrequested)
      simp only [Bool.or_eq_true, decide_eq_true_eq, if_neg hless, hdeclare]
      split <;> rfl

/-! ## Types that are at least as wide -/

/-- **The type `after` holds whatever the type `before` does**, as text or as a number. -/
structure IsAtLeast (after before : ColumnType) : Prop where
  text : before.kind? = some .string → after.kind? = some .string ∧
    min before.length unlimitedLength ≤ after.length ∧ after.isUnicode = before.isUnicode
  digits : ∀ size, before.decimalSize = some size → ∃ size', after.decimalSize = some size' ∧
    size.beforeDigits ≤ size'.beforeDigits ∧ size.scale ≤ size'.scale

theorem IsAtLeast.refl (ct : ColumnType) : ct.IsAtLeast ct where
  text h := ⟨h, by omega, rfl⟩
  digits size h := ⟨size, h, UInt32.le_refl _, UInt32.le_refl _⟩

theorem IsAtLeast.trans {a b c : ColumnType} (hab : a.IsAtLeast b) (hbc : b.IsAtLeast c) :
    a.IsAtLeast c where
  text h := by
    obtain ⟨hb, hlength, hunicode⟩ := hbc.text h
    obtain ⟨ha, hlength', hunicode'⟩ := hab.text hb
    exact ⟨ha, by omega, hunicode'.trans hunicode⟩
  digits size h := by
    obtain ⟨size', hb, hbefore, hscale⟩ := hbc.digits size h
    obtain ⟨size'', ha, hbefore', hscale'⟩ := hab.digits size' hb
    exact ⟨size'', ha, UInt32.le_trans hbefore hbefore', UInt32.le_trans hscale hscale'⟩

/-- A type with digits is no string. -/
theorem kind?_ne_string_of_decimalSize {ct : ColumnType} {size : DecimalSize}
    (h : ct.decimalSize = some size) : ct.kind? ≠ some .string := by
  obtain ⟨kind, hkind, hnumber⟩ := isNumberKind_of_decimalSizeOf h
  intro hstring
  obtain rfl := Option.some.inj (hkind.symm.trans hstring)
  generalize ct.dialect = dialect at hnumber
  cases dialect <;> contradiction

/-- What a call leaves is at least as wide as what it was made on. -/
theorem isAtLeast_of_keepsRules {call : Resizing} {ct after : ColumnType}
    {outcome : Except SqlError Unit} {trace : List Exchange}
    (h : call.KeepsRules ct outcome after trace) : after.IsAtLeast ct := by
  cases houtcome : outcome with
  | error e =>
    rw [h.failed e houtcome]
    exact .refl ct
  | ok =>
    by_cases hpresent : call.IsPresent ct
    · rw [(h.present hpresent).2.2]
      exact .refl ct
    -- neither refused nor there already: the type has been declared anew
    have hreached := h.reached houtcome hpresent
    have hrefused : ¬ call.IsRefused ct := by
      intro hrefused
      obtain ⟨⟨fault, hfault⟩, -⟩ := h.refused hrefused
      rw [houtcome] at hfault
      contradiction
    cases call with
    | toWidth width =>
      obtain ⟨hlength, hunicode⟩ := hreached
      obtain ⟨hstring, hle⟩ := not_or.mp hrefused
      have hkind : after.kind? = some .string := Decidable.not_not.mp fun hkind => by
        have hnot : after.length = -1 := stringLength_eq_notAString_iff.mpr hkind
        have hunlimited : 0 ≤ unlimitedLength := by decide
        split at hlength <;> omega
      refine ⟨fun _ => ⟨hkind, ?_, hunicode⟩, fun size hsize => ?_⟩
      · rw [hlength]
        split <;> omega
      · exact absurd (Decidable.not_not.mp hstring) (kind?_ne_string_of_decimalSize hsize)
    | toDigits before behind =>
      obtain ⟨-, hrefused⟩ := not_or.mp hrefused
      obtain ⟨hsome, hless⟩ := not_or.mp hrefused
      obtain ⟨current, hcurrent⟩ := Option.ne_none_iff_exists'.mp hsome
      refine ⟨fun hstring => absurd hstring (kind?_ne_string_of_decimalSize hcurrent), ?_⟩
      intro size hsize
      refine ⟨⟨some before, some behind⟩, hreached, ?_, ?_⟩
      · exact UInt32.not_lt.mp fun h => hless ⟨size, hsize, .inl h⟩
      · exact UInt32.not_lt.mp fun h => hless ⟨size, hsize, .inr h⟩

end ColumnType

/-! ## Runs -/

/-- One call of a run. -/
structure ResizeStep where
  call : Resizing
  /-- The type that was remembered before the call. -/
  before : ColumnType
  /-- The outcome; nothing if the program has stopped. -/
  outcome : Option (Except SqlError Unit)
  /-- The type that is remembered after it. -/
  after : ColumnType
  trace : List Exchange

/-- The calls of a run, each made on the type that the one before it has left.  No more calls are
made once the program has stopped. -/
def resizeSteps {σ : Type} (engine : Engine σ) :
    List (Resizing × Option Transaction) → ColumnType → σ → List ResizeStep
  | [], _, _ => []
  | (call, transaction) :: calls, ct, s =>
    match ct.perform? call transaction with
    | none => [⟨call, ct, none, ct, []⟩]
    | some program =>
      let ((outcome, after), trace, s) := program.run engine s
      ⟨call, ct, some outcome, after, trace⟩ :: resizeSteps engine calls after s

/-- **What a step does**: it keeps the rules, or stops where it should refuse the call for digits
that cannot be counted. -/
structure ResizeStep.IsSound (step : ResizeStep) : Prop where
  stopped : step.outcome = none ↔ step.call.IsUncountable step.before
  unsaid : step.outcome = none → step.after = step.before ∧ step.trace = []
  kept : ∀ outcome, step.outcome = some outcome →
    step.call.KeepsRules step.before outcome step.after step.trace

theorem ColumnType.perform?_cases (ct : ColumnType) {call : Resizing} (h : call.IsCountable)
    (transaction : Option Transaction) :
    (call.IsUncountable ct ∧ ct.perform? call transaction = none) ∨
      (¬ call.IsUncountable ct ∧ ∃ program, ct.perform? call transaction = some program ∧
        program.Ensures fun (outcome, after) trace => call.KeepsRules ct outcome after trace) := by
  cases call with
  | toWidth width => exact .inr ⟨id, _, rfl, ct.resize_keepsRules width transaction⟩
  | toDigits before behind =>
    rcases ct.resizeDecimal?_cases h transaction with hstops | ⟨hcounted, hprogram⟩
    · exact .inl hstops
    · exact .inr ⟨hcounted, _, hprogram, ct.resizeDecimal_keepsRules h transaction⟩

/-- **Resizing never narrows a column**: every call of a run keeps the rules, unless it should be
refused for digits that cannot be counted, and the types that are remembered stay at least as wide
as the first.  If there is no such call, all calls are made. -/
theorem resizeSteps_never_narrow {σ : Type} (engine : Engine σ)
    {calls : List (Resizing × Option Transaction)} (h : ∀ call ∈ calls, call.1.IsCountable)
    (ct : ColumnType) (s : σ) :
    (∀ step ∈ resizeSteps engine calls ct s, step.IsSound ∧ step.after.IsAtLeast ct) ∧
      ((∀ step ∈ resizeSteps engine calls ct s, ¬ step.call.IsUncountable step.before) →
        (resizeSteps engine calls ct s).map ResizeStep.call = calls.map Prod.fst) := by
  induction calls generalizing ct s with
  | nil => simp [resizeSteps]
  | cons call calls ih =>
    obtain ⟨call, transaction⟩ := call
    rw [List.forall_mem_cons] at h
    rw [resizeSteps]
    rcases ct.perform?_cases h.1 transaction with
      ⟨hmany, hnone⟩ | ⟨hcounted, program, hsome, hensures⟩
    · rw [hnone, List.forall_mem_singleton, List.forall_mem_singleton]
      refine ⟨⟨⟨iff_of_true rfl hmany, fun _ => ⟨rfl, rfl⟩, ?_⟩, .refl ct⟩,
        fun hcounted => absurd hmany hcounted⟩
      simp
    · rw [hsome]
      have hrules := hensures σ engine s
      have hwide := ColumnType.isAtLeast_of_keepsRules hrules
      obtain ⟨hsteps, hall⟩ := ih h.2 (program.run engine s).1.2 (program.run engine s).2.2
      simp only [List.forall_mem_cons, List.map_cons]
      refine ⟨⟨⟨⟨iff_of_false (by simp) hcounted, by simp, ?_⟩, hwide⟩, fun step hmem => ?_⟩, ?_⟩
      · rintro _ ⟨⟩
        exact hrules
      · exact ⟨(hsteps step hmem).1, (hsteps step hmem).2.trans hwide⟩
      · exact fun hnone => congrArg (call :: ·) (hall hnone.2)

/-- A column of short texts in SQL Server. -/
def shortText : ColumnType where
  table := ⟨⟨⟨.mssql, none, fun _ => false, default⟩, "shop"⟩, "t", none, .table⟩
  column := "name"
  sqlType := "varchar(10)"
  nullable := true

/-- A run with a call that is refused for the kind of the type and one that is for its width, and
with one that asks for more than is declared inline. -/
theorem resizeSteps_shortText :
    let calls : List (Resizing × Option Transaction) :=
      [(.toWidth 20, none), (.toDigits 3 2, none), (.toWidth 5, none), (.toWidth 9000, none)]
    (∀ call ∈ calls, call.1.IsCountable) ∧
      (resizeSteps Script.engine calls shortText {}).map (fun step => step.after.sqlType) =
        ["varchar(20)", "varchar(20)", "varchar(20)", "varchar(max)"] ∧
      (∀ step ∈ resizeSteps Script.engine calls shortText {},
        step.IsSound ∧ step.after.IsAtLeast shortText) ∧
      (resizeSteps Script.engine calls shortText {}).map ResizeStep.call = calls.map Prod.fst := by
  intro calls
  have hcalls : ∀ call ∈ calls, call.1.IsCountable := by decide
  obtain ⟨hsteps, hall⟩ := resizeSteps_never_narrow Script.engine hcalls shortText {}
  refine ⟨hcalls, by decide +kernel, hsteps, hall fun step hmem hmany => ?_⟩
  -- a column of texts has no digits that could be too many
  have hoften : ∀ step ∈ resizeSteps Script.engine calls shortText {},
      step.outcome ≠ none := by decide +kernel
  exact hoften step hmem ((hsteps step hmem).1.stopped.mpr hmany)

/-- A column of numbers in SQL Server with more digits than can be counted. -/
def longDecimal : ColumnType :=
  { shortText with column := "amount", sqlType := "decimal(4294967296,1)" }

/-- A call that should be refused, since it asks for fewer digits, but at which the program
stops. -/
theorem resizeSteps_longDecimal :
    Resizing.IsCountable (.toDigits 1 1) ∧ Resizing.IsRefused (.toDigits 1 1) longDecimal ∧
      (resizeSteps Script.engine [(.toDigits 1 1, none)] longDecimal {}).map ResizeStep.outcome =
        [none] := by
  have hsize : longDecimal.decimalSize = some (.ofDigits 4294967295 1) := by decide +kernel
  refine ⟨by decide, (Resizing.isRefused_toDigits_iff hsize).mpr (.inl (by decide)), ?_⟩
  have hstops : longDecimal.resizeDecimal? 1 1 none = none := by
    rw [ColumnType.resizeDecimal?, hsize]
    rfl
  rw [resizeSteps, ColumnType.perform?, hstops]
  rfl

end SqlDialects
