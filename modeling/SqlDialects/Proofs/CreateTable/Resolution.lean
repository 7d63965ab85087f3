import Mathlib.Data.List.Forall2
import SqlDialects.CreateTable.Plan
import SqlDialects.Proofs.Except
import SqlDialects.Proofs.List
import SqlDialects.Proofs.SortedPairs

/-!
# Where the columns of a new table come from

The columns of a new table are put together from two lists, the columns of a dataset and the
requests of the caller, and the two are matched by name, whatever the case.

* **`CreateTableArgs.Selects`** — a column of the data selects the first request of its name.
  Requests that differ by case only are told apart by nothing else, so the later ones of them stay
  unselected, and two columns of the data may select the same one.
* **`CreateTableArgs.Becomes`** — what a column of the data becomes: the request that it selects, or
  else a column of its own.
* **`CreateTableArgs.Accounts`** — the whole list: every column of the data in its order, then the
  unselected requests in theirs.

`planCreateTable_accounts` says that a plan accounts for its data and requests in this way, so that
nothing is lost on the way and nothing is there that was not asked for.
-/

set_option autoImplicit false

namespace SqlDialects

open Text

/-! ## Planning -/

/-- What planning has gone through when it succeeds. -/
structure Planned (d : Database) (args : CreateTableArgs) (plan : CreateTablePlan)
    (qualifiedName : String) : Prop where
  /-- The columns, before the caller has changed them for the last time. -/
  resolved : ∃ columns, args.resolveColumns d.dialect = .ok (columns, plan.inferredTypes) ∧
    plan.columns = args.adjust columns
  names : checkPlannedNames d.dialect args.table plan.columns = .ok ()
  qualified : d.dialect.style.qualifyTable d.name args.schema args.table = .ok qualifiedName
  statement :
    createTableSql d.dialect d.server.tokens qualifiedName plan.columns args = .ok plan.sql

theorem exists_planned {d : Database} {args : CreateTableArgs} {plan : CreateTablePlan}
    (h : planCreateTable d args = .ok plan) :
    ∃ qualifiedName, Planned d args plan qualifiedName := by
  rw [planCreateTable] at h
  split at h
  -- data is checked first, and everything else is done with it and without it
  on_goal 1 => obtain ⟨_, _, h⟩ := exists_of_bind_eq_ok h
  all_goals
    obtain ⟨⟨columns, inferredTypes⟩, hresolved, h⟩ := exists_of_bind_eq_ok h
    obtain ⟨⟨⟩, hnames, h⟩ := exists_of_bind_eq_ok h
    obtain ⟨qualifiedName, hqualified, h⟩ := exists_of_bind_eq_ok h
    obtain ⟨sql, hsql, h⟩ := exists_of_bind_eq_ok h
    obtain rfl := Except.ok.inj h
    exact ⟨qualifiedName, ⟨columns, hresolved, rfl⟩, hnames, hqualified, hsql⟩

/-- A plan has a column. -/
theorem Planned.columns_ne_nil {d : Database} {args : CreateTableArgs} {plan : CreateTablePlan}
    {qualifiedName : String} (h : Planned d args plan qualifiedName) : plan.columns ≠ [] := by
  intro hnil
  have hnames := h.names
  rw [hnil] at hnames
  obtain ⟨⟨⟩, -, hnames⟩ := exists_of_bind_eq_ok hnames
  contradiction

namespace CreateTableArgs

variable {args : CreateTableArgs} {dialect : Dialect} {data : DataSet}

/-! ## Selection -/

/-- A column of the given name selects the request at the place `i`: it is the first one of that
name, whatever the case. -/
def Selects (args : CreateTableArgs) (name : String) (i : Nat) : Prop :=
  ∃ request, args.explicitColumns[i]? = some request ∧ sameName request.name name = true ∧
    ∀ j < i, ∀ other, args.explicitColumns[j]? = some other → sameName other.name name = false

theorem explicitIndex_eq_some_iff {name : String} {i : Nat} :
    args.explicitIndex name = some i ↔ args.Selects name i := by
  rw [explicitIndex, List.findIdx?_eq_some_iff_getElem]
  constructor
  · rintro ⟨hi, hname, hbefore⟩
    refine ⟨_, List.getElem?_eq_getElem hi, hname, fun j hj other hother => ?_⟩
    obtain ⟨_, rfl⟩ := List.getElem?_eq_some_iff.mp hother
    exact Bool.eq_false_iff.mpr (hbefore j hj)
  · rintro ⟨request, hrequest, hname, hbefore⟩
    obtain ⟨hi, rfl⟩ := List.getElem?_eq_some_iff.mp hrequest
    refine ⟨hi, hname, fun j hj => ?_⟩
    exact Bool.eq_false_iff.mp (hbefore j hj _ (List.getElem?_eq_getElem (hj.trans hi)))

theorem explicitIndex_eq_none_iff {name : String} :
    args.explicitIndex name = none ↔
      ∀ request ∈ args.explicitColumns, sameName request.name name = false :=
  List.findIdx?_eq_none_iff

/-- The request at the place `i` is one that no column of the data selects. -/
def IsUnselected (args : CreateTableArgs) (data : DataSet) (i : Nat) : Prop :=
  i < args.explicitColumns.length ∧ ∀ column ∈ data.columns, ¬ args.Selects column.name i

/-! ## Single columns -/

/-- **What the column of the data at the place `index` becomes.** -/
inductive Becomes (args : CreateTableArgs) (dialect : Dialect) (data : DataSet) (index : Nat)
    (column : DataColumn) : ColumnRequest → Prop
  /-- The request that it selects, its type replaced by what it resolves to. -/
  | asked {i : Nat} {request : ColumnRequest} {r : TypeRequest}
    (hselects : args.Selects column.name i) (hrequest : args.explicitColumns[i]? = some request)
    (hr : request.resolve dialect = .ok r) :
    Becomes args dialect data index column { request with typeRequest := some r }
  /-- A column of its own name, if there is no request of that name. -/
  | own (hnone : ∀ request ∈ args.explicitColumns, sameName request.name column.name = false) :
    Becomes args dialect data index column
      { name := column.name
        typeRequest := some (columnType column args.guesser (args.guessSettings dialect)
          (args.sample data index))
        nullable := column.nullable
        isPrimaryKey := data.isPrimaryKey column.name }

theorem becomes_of_resolveColumn {index : Nat} {column : DataColumn} {c : ColumnRequest}
    {r : TypeRequest} (h : args.resolveColumn dialect data index column = .ok (c, r)) :
    args.Becomes dialect data index column c ∧ c.typeRequest = some r := by
  rw [resolveColumn] at h
  cases hindex : args.explicitIndex column.name with
  | none =>
    rw [hindex] at h
    obtain ⟨rfl, rfl⟩ := Prod.mk.inj (Except.ok.inj h)
    exact ⟨.own (explicitIndex_eq_none_iff.mp hindex), rfl⟩
  | some i =>
    have hselects := explicitIndex_eq_some_iff.mp hindex
    obtain ⟨request, hrequest, -⟩ := id hselects
    simp only [hindex, Option.bind_some, hrequest] at h
    cases hr : request.resolve dialect with
    | error e => simp [hr, Except.map] at h
    | ok t =>
      rw [hr] at h
      obtain ⟨rfl, rfl⟩ := Prod.mk.inj (Except.ok.inj h)
      exact ⟨.asked hselects hrequest hr, rfl⟩

/-! ## All columns -/

/-- Every column of the data becomes one of the new table, under which its type is noted. -/
theorem forall₂_of_resolveDataColumns {index : Nat} {columns : List DataColumn}
    {resolved : List (ColumnRequest × String × TypeRequest)}
    (h : args.resolveDataColumns dialect data index columns = .ok resolved) :
    List.Forall₂ (fun place entry => args.Becomes dialect data place.2 place.1 entry.1 ∧
        entry.2.1 = place.1.name ∧ entry.1.typeRequest = some entry.2.2)
      (columns.zipIdx index) resolved := by
  induction columns generalizing index resolved with
  | nil =>
    obtain rfl := Except.ok.inj h
    exact .nil
  | cons column rest ih =>
    obtain ⟨⟨c, r⟩, hc, h⟩ := exists_of_bind_eq_ok h
    obtain ⟨more, hmore, h⟩ := exists_of_bind_eq_ok h
    obtain rfl := Except.ok.inj h
    obtain ⟨hbecomes, hr⟩ := becomes_of_resolveColumn hc
    rw [List.zipIdx_cons]
    exact .cons ⟨hbecomes, rfl, hr⟩ (ih hmore)

theorem exists_places_unusedRequests :
    ∃ places : List Nat, places.Pairwise (· < ·) ∧ (∀ i, i ∈ places ↔ args.IsUnselected data i) ∧
      (args.unusedRequests data.columns).map some =
        places.map fun i => args.explicitColumns[i]? := by
  let used := data.columns.filterMap fun column => args.explicitIndex column.name
  refine ⟨(List.range args.explicitColumns.length).filter fun i => !decide (i ∈ used),
    List.pairwise_lt_range.filter _, fun i => ?_, ?_⟩
  · simp only [List.mem_filter, List.mem_range, Bool.not_eq_true', decide_eq_false_iff_not, used,
      List.mem_filterMap, not_exists, not_and, explicitIndex_eq_some_iff, IsUnselected]
  · rw [← map_some_filterMap_zipIdx, unusedRequests]
    simp only [decide_eq_true_eq, used]

/-- **How the columns of a new table and the types noted for the data come about.** -/
structure Accounts (args : CreateTableArgs) (dialect : Dialect) (data : DataSet)
    (columns : List ColumnRequest) (inferredTypes : SortedPairs TypeRequest) : Prop where
  /-- What the columns of the data become, in their order, and then the requests at the places that
  no column of the data selects, in theirs. -/
  origin : ∃ resolved unselected, columns = resolved ++ unselected ∧
    List.Forall₂ (fun place c => args.Becomes dialect data place.2 place.1 c) data.columns.zipIdx
      resolved ∧
    ∃ places : List Nat, places.Pairwise (· < ·) ∧ (∀ i, i ∈ places ↔ args.IsUnselected data i) ∧
      unselected.map some = places.map fun i => args.explicitColumns[i]?
  /-- The types are noted under the names of the columns of the data, each of them once. -/
  names : (SortedPairs.names inferredTypes).Pairwise (· < ·) ∧
    ∀ name, name ∈ SortedPairs.names inferredTypes ↔ ∃ column ∈ data.columns, column.name = name
  /-- Where these names differ, the type noted for a column is that of the column of the table. -/
  types : (data.columns.map DataColumn.name).Nodup → ∀ (i : Nat) (column : DataColumn)
    (c : ColumnRequest), data.columns[i]? = some column → columns[i]? = some c →
    SortedPairs.value? column.name inferredTypes = c.typeRequest

/-- The columns are those that the data becomes, and then the requests left unused. -/
theorem resolveColumns_eq_ok {columns : List ColumnRequest}
    {inferredTypes : SortedPairs TypeRequest} (hdata : args.data = some data)
    (h : args.resolveColumns dialect = .ok (columns, inferredTypes)) :
    ∃ resolved, args.resolveDataColumns dialect data 0 data.columns = .ok resolved ∧
      columns = resolved.map Prod.fst ++ args.unusedRequests data.columns ∧
      inferredTypes = SortedPairs.ofList (resolved.map Prod.snd) := by
  rw [resolveColumns, hdata] at h
  obtain ⟨resolved, hresolved, h⟩ := exists_of_bind_eq_ok h
  obtain ⟨rfl, rfl⟩ := Prod.mk.inj (Except.ok.inj h)
  exact ⟨resolved, hresolved, rfl, rfl⟩

theorem accounts_of_resolveColumns {columns : List ColumnRequest}
    {inferredTypes : SortedPairs TypeRequest} (hdata : args.data = some data)
    (h : args.resolveColumns dialect = .ok (columns, inferredTypes)) :
    args.Accounts dialect data columns inferredTypes := by
  obtain ⟨resolved, hresolved, rfl, rfl⟩ := resolveColumns_eq_ok hdata h
  have hall := forall₂_of_resolveDataColumns hresolved
  have hnames : (resolved.map Prod.snd).map Prod.fst = data.columns.map DataColumn.name := by
    conv_rhs => rw [← List.zipIdx_map_fst 0 data.columns]
    rw [List.map_map, List.map_map, ← List.forall₂_eq_eq_eq, List.forall₂_map_left_iff,
      List.forall₂_map_right_iff]
    exact List.Forall₂.flip (hall.imp fun place entry hplace => hplace.2.1)
  refine
    { origin := ⟨_, _, rfl, ?_, exists_places_unusedRequests⟩
      names := ⟨SortedPairs.names_ofList_pairwise _, fun name => by
        rw [SortedPairs.mem_names_ofList, hnames, List.mem_map]⟩
      types := fun hnodup i column c hcolumn hc => ?_ }
  · rw [List.forall₂_map_right_iff]
    exact hall.imp fun place entry hplace => hplace.1
  · have hplace : data.columns.zipIdx[i]? = some (column, i) := by
      rw [List.getElem?_zipIdx, hcolumn, Option.map_some, Nat.zero_add]
    obtain ⟨entry, hentry, -, hname, htype⟩ := exists_getElem?_of_forall₂ hall hplace
    obtain ⟨hi, rfl⟩ := List.getElem?_eq_some_iff.mp hentry
    rw [List.getElem?_append_left (by rwa [List.length_map]), List.getElem?_map,
      List.getElem?_eq_getElem hi, Option.map_some, Option.some_inj] at hc
    rw [← hc, htype]
    refine SortedPairs.value?_ofList (hnames ▸ hnodup) ?_
    rw [← hname]
    exact List.mem_map_of_mem (List.getElem_mem hi)

/-- **A plan accounts for its data and its requests**, if the caller does not change the columns
afterwards. -/
theorem planCreateTable_accounts {d : Database} {plan : CreateTablePlan}
    (hdata : args.data = some data) (hadjust : args.adjust = id)
    (hplan : planCreateTable d args = .ok plan) :
    args.Accounts d.dialect data plan.columns plan.inferredTypes := by
  obtain ⟨_, hplanned⟩ := exists_planned hplan
  obtain ⟨columns, hresolved, hcolumns⟩ := hplanned.resolved
  rw [hcolumns, hadjust, id]
  exact accounts_of_resolveColumns hdata hresolved

end CreateTableArgs

/-- A database of that name on a server that speaks the dialect. -/
def shop (dialect : Dialect) : Database := ⟨⟨dialect, none, fun _ => false, default⟩, "shop"⟩

/-- Prices by the number of what they are for. -/
def prices : DataSet where
  name := "prices"
  columns := [{ name := "amount" }, { name := "id", kind := .typed .int32, nullable := false }]
  rows := [[.text "15", .int32 1], [.text "29.9", .int32 2]]
  primaryKey := ["ID"]

/-- A table for prices, with two requests for the amount and one for a note. -/
def pricesTable : CreateTableArgs where
  table := "prices"
  explicitColumns :=
    [.ofName "AMOUNT" "varchar(20)", .ofName "Amount" "int", .ofType "note" (.string 5)]
  data := some prices

/-- The second request for the amount is appended. -/
theorem pricesTable_accounts :
    ∃ plan, planCreateTable (shop .mssql) pricesTable = .ok plan ∧
      plan.columns.map ColumnRequest.name = ["AMOUNT", "id", "Amount", "note"] ∧
      pricesTable.Accounts .mssql prices plan.columns plan.inferredTypes := by
  have hnames : ((planCreateTable (shop .mssql) pricesTable).toOption.map
      fun plan => plan.columns.map ColumnRequest.name) =
        some ["AMOUNT", "id", "Amount", "note"] := by
    decide +kernel
  cases hplan : planCreateTable (shop .mssql) pricesTable with
  | error e => simp [hplan, Except.toOption] at hnames
  | ok plan =>
    rw [hplan] at hnames
    exact ⟨plan, rfl, Option.some.inj hnames,
      CreateTableArgs.planCreateTable_accounts (show pricesTable.data = some prices from rfl) rfl
        hplan⟩

end SqlDialects
