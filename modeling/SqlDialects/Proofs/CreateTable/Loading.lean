import SqlDialects.BulkLoad
import SqlDialects.Engine.Script
import SqlDialects.Proofs.ColumnMapping
import SqlDialects.Proofs.CreateTable.Resolution
import SqlDialects.Proofs.Engine.Ensures
import SqlDialects.Proofs.List

/-!
# A table can be loaded from the data that it was planned for

Columns of data are matched by name twice: to the requests of the caller when the table is planned,
and to the columns of the table when the data is loaded.  Both times the case is of no account, and
the two matchings agree where names differ by more than case.

* `DistinctNames` is asked of the data and of the requests, each for itself.
* `resolveName_planned` — then a column of the data resolves to the column of the table that it has
  become, and to no other.
* `withColumns_maps_planned` — so the whole data goes to the first columns of the table in order,
  and the columns that nobody but the caller asked for are left.
-/

set_option autoImplicit false

namespace SqlDialects

open Text

namespace CreateTableArgs

variable {args : CreateTableArgs} {dialect : Dialect} {data : DataSet}

/-! ## Names of planned columns -/

/-- A column of the data becomes one of its name, whatever the case. -/
theorem Becomes.sameName {index : Nat} {column : DataColumn} {c : ColumnRequest}
    (h : args.Becomes dialect data index column c) : sameName c.name column.name = true := by
  cases h with
  | asked hselects hrequest _ =>
    obtain ⟨request, hsome, hname, -⟩ := hselects
    obtain rfl := Option.some.inj (hsome.symm.trans hrequest)
    exact hname
  | own _ => exact sameName_refl _

/-- The requests of names that no column of the data has. -/
def requestsBesides (args : CreateTableArgs) (data : DataSet) : List ColumnRequest :=
  args.explicitColumns.filter fun request =>
    data.columns.all fun column => !sameName request.name column.name

/-- Among requests whose names differ, a column of the data selects every one of its name. -/
theorem explicitIndex_eq_some_iff_sameName
    (hrequests : DistinctNames (args.explicitColumns.map ColumnRequest.name)) {name : String}
    {i : Nat} {request : ColumnRequest} (hrequest : args.explicitColumns[i]? = some request) :
    args.explicitIndex name = some i ↔ sameName request.name name = true := by
  have hname : ∀ {j : Nat} {other : ColumnRequest}, args.explicitColumns[j]? = some other →
      (args.explicitColumns.map ColumnRequest.name)[j]? = some other.name := by
    intro j other hother
    rw [List.getElem?_map, hother, Option.map_some]
  rw [explicitIndex_eq_some_iff]
  constructor
  · rintro ⟨other, hother, hsame, -⟩
    obtain rfl := Option.some.inj (hother.symm.trans hrequest)
    exact hsame
  · intro hsame
    refine ⟨request, hrequest, hsame, fun j hj other hother => Bool.eq_false_iff.mpr fun h => ?_⟩
    have hij := hrequests.eq_of_sameName (hname hother) (hname hrequest)
      (sameName_trans h (sameName_comm request.name name ▸ hsame))
    exact Nat.ne_of_lt hj hij

/-- Among requests whose names differ, those left unused have names that the data has not. -/
theorem unusedRequests_eq
    (hrequests : DistinctNames (args.explicitColumns.map ColumnRequest.name)) :
    args.unusedRequests data.columns = args.requestsBesides data := by
  refine filterMap_zipIdx_eq_filter fun i request hrequest => ?_
  simp only [List.mem_filterMap, explicitIndex_eq_some_iff_sameName hrequests hrequest,
    List.all_eq_false, Bool.not_eq_true', Bool.not_eq_false]

/-- The columns of a plan: those that the data becomes, and then the requests besides. -/
theorem exists_planned_columns {d : Database} {plan : CreateTablePlan}
    (hdata : args.data = some data) (hadjust : args.adjust = id)
    (hplan : planCreateTable d args = .ok plan)
    (hrequests : DistinctNames (args.explicitColumns.map ColumnRequest.name)) :
    ∃ resolved, plan.columns = resolved ++ args.requestsBesides data ∧
      List.Forall₂ (fun column c => sameName c.name column.name = true) data.columns resolved := by
  obtain ⟨_, hplanned⟩ := exists_planned hplan
  obtain ⟨columns, hresolved, hcolumns⟩ := hplanned.resolved
  obtain ⟨resolved, hentries, rfl, -⟩ := resolveColumns_eq_ok hdata hresolved
  refine ⟨resolved.map Prod.fst, ?_, ?_⟩
  · rw [hcolumns, hadjust, id, unusedRequests_eq hrequests]
  · rw [List.forall₂_map_right_iff, ← List.zipIdx_map_fst 0 data.columns,
      List.forall₂_map_left_iff]
    exact (forall₂_of_resolveDataColumns hentries).imp fun place entry h => h.1.sameName

end CreateTableArgs

/-! ## Loading -/

/-- A column of the data resolves to what it has become. -/
theorem resolveName_planned {data : List DataColumn} {resolved besides : List ColumnRequest}
    (hresolved : List.Forall₂ (fun column c => sameName c.name column.name = true) data resolved)
    (hbesides : ∀ c ∈ besides, ∀ column ∈ data, sameName c.name column.name = false)
    (hdistinct : DistinctNames (data.map DataColumn.name)) {i : Nat} {name : String}
    (hname : (data.map DataColumn.name)[i]? = some name) :
    resolveName ((resolved ++ besides).map ColumnRequest.name) name = .column i := by
  rw [List.getElem?_map] at hname
  obtain ⟨column, hcolumn, rfl⟩ := Option.map_eq_some_iff.mp hname
  refine resolveName_of_unique fun j => ?_
  rw [List.getElem?_map]
  simp only [Option.map_eq_some_iff, exists_exists_and_eq_and]
  constructor
  · rintro ⟨c, hc, hsame⟩
    rcases Nat.lt_or_ge j resolved.length with hj | hj
    · rw [List.getElem?_append_left hj] at hc
      obtain ⟨other, hother, hsame'⟩ := exists_getElem?_of_forall₂ hresolved.flip hc
      have hname : ∀ {k : Nat} {column : DataColumn}, data[k]? = some column →
          (data.map DataColumn.name)[k]? = some column.name := by
        intro k column hcolumn
        rw [List.getElem?_map, hcolumn, Option.map_some]
      exact hdistinct.eq_of_sameName (hname hother) (hname hcolumn)
        (sameName_trans (sameName_comm c.name other.name ▸ hsame') hsame)
    · rw [List.getElem?_append_right hj] at hc
      rw [hbesides c (List.mem_of_getElem? hc) column (List.mem_of_getElem? hcolumn)] at hsame
      contradiction
  · rintro rfl
    obtain ⟨c, hc, hsame⟩ := exists_getElem?_of_forall₂ hresolved hcolumn
    exact ⟨c, by rw [List.getElem?_append_left (List.getElem?_eq_some_iff.mp hc).1, hc], hsame⟩

/-- Columns that are not known are asked for. -/
theorem run_withColumns_none {session : BulkSession} (hunknown : session.columns = none) :
    session.withColumns.run =
      .ask (.describeColumns session.connection session.table.ref) fun
        | Except.error e => .done (.error e)
        | Except.ok infos =>
          .done (.ok
            { session with columns := some (infos.map (Column.ofInfo session.table)) }) := by
  rw [BulkSession.withColumns, hunknown]
  refine congrArg (Program.ask _) (funext fun answer => ?_)
  cases answer <;> rfl

/-- The names of columns as they are reported. -/
theorem map_name_ofInfo (t : Table) (infos : List ColumnInfo) :
    (infos.map (Column.ofInfo t)).map Column.name = infos.map ColumnInfo.name := by
  rw [List.map_map]
  rfl

/-- **Whatever the engine is**, if it reports the columns of the table under the names that were
planned, the columns of the data go to the first ones in order, and those that nobody but the caller
asked for are left.  That is so whether or not columns of the input may go nowhere. -/
theorem withColumns_maps_planned {d : Database} {args : CreateTableArgs} {plan : CreateTablePlan}
    {data : DataSet} (hdata : args.data = some data) (hadjust : args.adjust = id)
    (hplan : planCreateTable d args = .ok plan)
    (hdistinct : DistinctNames (data.columns.map DataColumn.name))
    (hrequests : DistinctNames (args.explicitColumns.map ColumnRequest.name))
    {session : BulkSession} (hunknown : session.columns = none) :
    session.withColumns.run.Ensures fun outcome trace =>
      ∀ infos : List ColumnInfo,
        trace = [⟨.describeColumns session.connection session.table.ref, Except.ok infos⟩] →
        infos.map ColumnInfo.name = plan.columns.map ColumnRequest.name →
        ∃ informed, outcome = .ok informed ∧
          informed.map (data.columns.map DataColumn.name) =
            .ok { pairs := identityPairs data.columns.length
                  unmatchedInput := []
                  unmatchedDestination := (args.requestsBesides data).map ColumnRequest.name } ∧
          plan.columns.drop data.columns.length = args.requestsBesides data := by
  obtain ⟨resolved, hcolumns, hresolved⟩ :=
    CreateTableArgs.exists_planned_columns hdata hadjust hplan hrequests
  have hbesides : ∀ c ∈ args.requestsBesides data, ∀ column ∈ data.columns,
      sameName c.name column.name = false := by
    intro c hc column hcolumn
    simpa using List.all_eq_true.mp (List.mem_filter.mp hc).2 column hcolumn
  have hdrop : plan.columns.drop data.columns.length = args.requestsBesides data := by
    rw [hcolumns, hresolved.length_eq, List.drop_left]
  rw [run_withColumns_none hunknown]
  refine .ask fun answer => ?_
  cases answer with
  | error e => exact .done fun infos htrace => by cases htrace
  | ok reported =>
    refine .done fun infos htrace hnames => ⟨_, rfl, ?_, hdrop⟩
    obtain rfl : reported = infos := by cases htrace; rfl
    have hmap := mapColumns_of_inOrder session.table.name session.settings.allowUnmatched
      fun i name hname => resolveName_planned hresolved hbesides hdistinct hname
    rw [BulkSession.map, BulkSession.knownColumns, Option.getD_some, map_name_ofInfo, hnames,
      hcolumns, hmap, List.length_map, ← List.map_drop, ← hcolumns, hdrop]

/-- A table for prices with notes. -/
def notedPricesTable : CreateTableArgs where
  table := "prices"
  explicitColumns := [.ofName "AMOUNT" "varchar(20)", .ofType "note" (.string 5)]
  data := some prices

/-- A session that loads prices. -/
def pricesSession : BulkSession :=
  ⟨(shop .mssql).table "prices" none .table, ⟨1, some "shop"⟩, true, {}, none⟩

/-- A catalog with the table of prices. -/
def pricesCatalog : Script where
  tables := [{
    info := ⟨"prices", none, .table⟩
    columns := [⟨"AMOUNT", "varchar(20)", true, false, false, none, []⟩,
      ⟨"id", "int", false, true, false, none, []⟩,
      ⟨"note", "varchar(5)", true, false, false, none, []⟩] }]

/-- The amount and the number of a price find their columns, and the note is left. -/
theorem notedPrices_maps :
    (∃ plan, planCreateTable (shop .mssql) notedPricesTable = .ok plan) ∧
      DistinctNames (prices.columns.map DataColumn.name) ∧
      DistinctNames (notedPricesTable.explicitColumns.map ColumnRequest.name) ∧
      ∃ informed, (pricesSession.withColumns.run.run Script.engine pricesCatalog).1 =
          .ok informed ∧
        informed.map ["amount", "id"] =
          .ok { pairs := [(0, 0), (1, 1)], unmatchedDestination := ["note"] } := by
  have hdistinct : DistinctNames (prices.columns.map DataColumn.name) := by decide +kernel
  have hrequests : DistinctNames (notedPricesTable.explicitColumns.map ColumnRequest.name) := by
    decide +kernel
  have hnames : ((planCreateTable (shop .mssql) notedPricesTable).toOption.map
      fun plan => plan.columns.map ColumnRequest.name) = some ["AMOUNT", "id", "note"] := by
    decide +kernel
  cases hplan : planCreateTable (shop .mssql) notedPricesTable with
  | error e => simp [hplan, Except.toOption] at hnames
  | ok plan =>
    rw [hplan] at hnames
    obtain ⟨informed, hinformed, hmap, -⟩ :=
      withColumns_maps_planned (show notedPricesTable.data = some prices from rfl) rfl hplan
        hdistinct hrequests (show pricesSession.columns = none from rfl) Script Script.engine
        pricesCatalog _ rfl (Option.some.inj hnames).symm
    exact ⟨⟨plan, rfl⟩, hdistinct, hrequests, informed, hinformed, hmap⟩

end SqlDialects
