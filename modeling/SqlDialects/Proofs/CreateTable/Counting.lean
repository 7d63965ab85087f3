import SqlDialects.CreateTable.Plan
import SqlDialects.Proofs.Guess.Counting
import SqlDialects.Proofs.TypeName.RoundTrip

/-!
# Plans that can be counted

A plan is not made if a width or a count of digits on the way to it is too great, and then there is
no error either.  `countPlan` takes the counts, and what it stops at are columns of the data and
decimals to be declared.  Neither happens where the texts of the data are short and the digits of
the planned columns can be counted (`planCreateTable?_of_hasShortTexts`): then there is a plan or an
error, as in `planCreateTable`.

`ComesOut` says that a computation that may stop has a value or an error.
-/

set_option autoImplicit false

namespace SqlDialects

/-! ## Computations that may stop -/

/-- The computation does not stop: it has a value or an error. -/
def ComesOut {α : Type} (x : ExceptT SqlError Option α) : Prop := x.run.isSome = true

namespace ComesOut

variable {α β : Type}

theorem pure (a : α) : ComesOut (Pure.pure a) := rfl

theorem lift (x : Except SqlError α) : ComesOut (liftM x) := rfl

theorem bind {x : ExceptT SqlError Option α} {f : α → ExceptT SqlError Option β}
    (hx : ComesOut x) (hf : ∀ a, x.run = some (.ok a) → ComesOut (f a)) : ComesOut (x >>= f) := by
  obtain ⟨result, hresult⟩ := Option.isSome_iff_exists.mp hx
  rw [ComesOut, ExceptT.run_bind, hresult]
  cases result with
  | error e => rfl
  | ok a => exact hf a hresult

theorem forM {f : α → ExceptT SqlError Option Unit} {l : List α} (h : ∀ a ∈ l, ComesOut (f a)) :
    ComesOut (l.forM f) := by
  induction l with
  | nil => exact pure ()
  | cons a l ih =>
    rw [List.forall_mem_cons] at h
    exact h.1.bind fun _ _ => ih h.2

end ComesOut

/-! ## Columns of the data -/

section Columns

variable {guesser : Guesser} {settings : GuessSettings} {values : List SqlValue}

/-- The guessers that the library offers. -/
def Guesser.IsBuiltIn (guesser : Guesser) : Prop := guesser = .basic ∨ guesser = .uniform

theorem isSome_neededWidth? (hguesser : guesser.IsBuiltIn) {v : SqlValue}
    (h : v.IsShort settings) : (neededWidth? guesser settings v).isSome = true := by
  have hfew : ∀ r ∈ guesser.guess settings v, r.HasFewDigits := by
    intro r hr
    rcases hguesser with rfl | rfl <;> exact hasFewDigits_guessValue h hr
  cases v with
  | text s => exact Option.isSome_of_eq_some (paddedWidth?_eq_some (h s rfl))
  | _ =>
    simp only [neededWidth?]
    split
    · next r hr =>
      rw [Option.isSome_map, TypeRequest.textWidth?_eq_some (hfew r hr)]
      rfl
    · rfl

theorem countsTexts_of_isShort (hguesser : guesser.IsBuiltIn)
    (h : ∀ v ∈ values, v.IsShort settings) : countsTexts guesser settings values = true :=
  List.all_eq_true.mpr fun v hv => isSome_neededWidth? hguesser (h v hv)

theorem Guesser.IsBuiltIn.counts (hguesser : guesser.IsBuiltIn)
    (h : ∀ v ∈ values, v.IsShort settings) : guesser.counts settings values = true := by
  rcases hguesser with rfl | rfl
  · exact (counts_of_isShort h).1
  · exact (counts_of_isShort h).2

theorem countsColumn_of_isShort (hguesser : guesser.IsBuiltIn) (column : DataColumn)
    (h : ∀ v ∈ values, v.IsShort settings) :
    countsColumn column guesser settings values = true := by
  have htexts := countsTexts_of_isShort hguesser h
  have hothers : guesser.counts settings (values.filter fun v => !v.isNull) = true :=
    hguesser.counts fun v hv => h v (List.mem_of_mem_filter hv)
  rw [countsColumn]
  cases column.kind with
  | text =>
    simp only
    split
    · exact htexts
    · exact hguesser.counts h
  | typed kind =>
    cases kind with
    | string => exact htexts
    | _ => exact Bool.or_eq_true_iff.mpr (.inr hothers)
  | opaqueObject => rfl

end Columns

/-! ## Plans -/

namespace CreateTableArgs

/-- The texts of the data are short. -/
def HasShortTexts (args : CreateTableArgs) (dialect : Dialect) : Prop :=
  ∀ data ∈ args.data, ∀ row ∈ data.rows, ∀ v ∈ row, v.IsShort (args.guessSettings dialect)

/-- The digits of the decimals that planned columns ask for can be counted. -/
def HasCountableColumns (args : CreateTableArgs) (dialect : Dialect) : Prop :=
  ∀ resolved types, args.resolveColumns dialect = .ok (resolved, types) →
    ∀ column ∈ args.adjust resolved, column.explicitType = none →
      ∀ r ∈ column.typeRequest, ∀ size ∈ r.decimalSize, size.IsRepresentable

variable {args : CreateTableArgs} {dialect : Dialect}

theorem HasShortTexts.sample (h : args.HasShortTexts dialect) {data : DataSet}
    (hdata : args.data = some data) (index : Nat) :
    ∀ v ∈ args.sample data index, v.IsShort (args.guessSettings dialect) := by
  have hvalues : ∀ v ∈ data.columnValues index, v.IsShort (args.guessSettings dialect) := by
    intro v hv
    obtain ⟨row, hrow, rfl⟩ := List.mem_map.mp hv
    rw [List.getD_eq_getElem?_getD]
    cases hcell : row[index]? with
    | none => exact fun text htext => by contradiction
    | some v => exact h data hdata row hrow v (List.mem_of_getElem? hcell)
  intro v hv
  rw [CreateTableArgs.sample] at hv
  split at hv
  · exact hvalues v (List.mem_of_mem_take hv)
  · exact hvalues v hv

end CreateTableArgs

theorem isSome_sqlType? {column : ColumnRequest} (dialect : Dialect)
    (h : column.explicitType = none → ∀ r ∈ column.typeRequest, ∀ size ∈ r.decimalSize,
      size.IsRepresentable) : (column.sqlType? dialect).isSome = true := by
  rw [ColumnRequest.sqlType?]
  split
  · next r hname hr =>
    rw [Option.isSome_map, declare?_eq_some dialect (h hname r hr)]
    rfl
  · rfl

section Plan

variable {d : Database} {args : CreateTableArgs}

/-- The types of the planned columns can be declared. -/
theorem comesOut_declaring (hcolumns : args.HasCountableColumns d.dialect) : ComesOut (do
    let (resolved, _) ← args.resolveColumns d.dialect
    let columns := args.adjust resolved
    checkPlannedNames d.dialect args.table columns
    let _ ← d.dialect.style.qualifyTable d.name args.schema args.table
    columns.forM fun column => do
      let _ ← ExceptT.mk (column.sqlType? d.dialect)
      let _ ← columnLine d.dialect column) := by
  refine .bind (.lift _) fun (resolved, types) hresolved => ?_
  refine .bind (.lift _) fun _ _ => .bind (.lift _) fun _ _ => .forM fun column hcolumn => ?_
  refine .bind ?_ fun _ _ => .bind (.lift _) fun _ _ => .pure _
  exact isSome_sqlType? d.dialect
    (hcolumns resolved types (Option.some.inj hresolved) column hcolumn)

/-- **A plan can be counted** if the texts of the data are short and the planned columns ask for no
more digits than can be counted. -/
theorem planCreateTable?_of_hasShortTexts (hguesser : args.guesser.IsBuiltIn)
    (htexts : args.HasShortTexts d.dialect) (hcolumns : args.HasCountableColumns d.dialect) :
    planCreateTable? d args = some (planCreateTable d args) := by
  have hcounts : ComesOut (countPlan d args) := by
    rw [countPlan]
    cases hdata : args.data with
    | none => exact comesOut_declaring hcolumns
    | some data =>
      refine .bind (.lift _) fun _ _ => .bind (.forM fun (column, index) _ => ?_) fun _ _ =>
        comesOut_declaring hcolumns
      refine .bind (.lift _) fun _ _ => ?_
      rw [countsColumn_of_isShort hguesser column (htexts.sample hdata index)]
      split <;> exact .pure _
  obtain ⟨result, hresult⟩ := Option.isSome_iff_exists.mp hcounts
  rw [planCreateTable?, hresult, Option.map_some]

end Plan

end SqlDialects
