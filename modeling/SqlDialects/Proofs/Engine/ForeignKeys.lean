import Mathlib.Data.List.Forall2
import Mathlib.Data.List.Nodup
import SqlDialects.Engine.Sqlite
import SqlDialects.Proofs.Engine.Ensures
import SqlDialects.Proofs.List

/-!
# The foreign keys of SQLite

SQLite tells the foreign keys of a table as a flat list of rows, one for each column of each key,
with a number that says which key it is.  The keys are put together from them.

* **Grouping loses nothing.**  The groups have different numbers, each number that occurs has one,
  and the group of a number holds its rows in their order (`groupByKey_rows`, `mem_keys_groupByKey`,
  `nodup_keys_groupByKey`).
* **`Reconstructs`** says what the keys of one child table have to be, without groups: one for each
  number with a row that refers to the table, by ascending number
  (`relationshipsOfRows_reconstructs`).
* **Child by child**, the catalog is asked for the rows (`relationshipsOf_ensures`).
-/

set_option autoImplicit false

namespace SqlDialects

open Text

namespace Sqlite

/-! ## Grouping -/

section Groups

variable {key : Int} {entries : List (Int × List SqlValue)}

/-- The rows of a key, in order. -/
def rowsOf (key : Int) (entries : List (Int × List SqlValue)) : List (List SqlValue) :=
  (entries.filter fun entry => entry.1 = key).map Prod.snd

theorem rowsOf_cons_self (row : List SqlValue) :
    rowsOf key ((key, row) :: entries) = row :: rowsOf key entries := by
  simp [rowsOf]

theorem rowsOf_cons_of_ne {other : Int} (h : other ≠ key) (row : List SqlValue) :
    rowsOf key ((other, row) :: entries) = rowsOf key entries := by
  simp [rowsOf, h]

theorem rowsOf_eq_nil_iff : rowsOf key entries = [] ↔ key ∉ entries.map Prod.fst := by
  simp only [rowsOf, List.map_eq_nil_iff, List.filter_eq_nil_iff, decide_eq_true_eq, List.mem_map,
    not_exists, not_and]

theorem notMem_of_find?_eq_none {groups : List (Int × List (List SqlValue))}
    (h : groups.find? (fun group => group.1 = key) = none) : key ∉ groups.map Prod.fst := by
  intro hmem
  obtain ⟨group, hgroup, rfl⟩ := List.mem_map.mp hmem
  simpa using List.find?_eq_none.mp h group hgroup

/-- The keys of the groups are those of the entries. -/
theorem mem_keys_groupByKey :
    key ∈ (groupByKey entries).map Prod.fst ↔ key ∈ entries.map Prod.fst := by
  induction entries with
  | nil => rfl
  | cons entry rest ih =>
    obtain ⟨first, row⟩ := entry
    rw [groupByKey, List.map_cons, List.mem_cons, ← ih]
    split
    · by_cases h : key = first <;> simp [h]
    · rw [List.map_cons, List.mem_cons]

/-- No key has two groups. -/
theorem nodup_keys_groupByKey : ((groupByKey entries).map Prod.fst).Nodup := by
  induction entries with
  | nil => exact List.nodup_nil
  | cons entry rest ih =>
    obtain ⟨first, row⟩ := entry
    rw [groupByKey]
    split
    · refine List.nodup_cons.mpr ⟨by simp, ?_⟩
      exact ih.sublist (List.filter_sublist.map Prod.fst)
    · next hnone => exact List.nodup_cons.mpr ⟨notMem_of_find?_eq_none hnone, ih⟩

/-- **The group of a key holds its rows**, all of them and in order. -/
theorem groupByKey_rows : ∀ group ∈ groupByKey entries, group.2 = rowsOf group.1 entries := by
  induction entries with
  | nil => exact List.forall_mem_nil _
  | cons entry rest ih =>
    obtain ⟨first, row⟩ := entry
    rw [groupByKey]
    split
    · next found hfound =>
      have hkey : found.1 = first := by simpa using List.find?_some hfound
      refine List.forall_mem_cons.mpr ⟨?_, fun group hgroup => ?_⟩
      · rw [rowsOf_cons_self, ih found (List.mem_of_find?_eq_some hfound), hkey]
      · obtain ⟨hmem, hne⟩ := List.mem_filter.mp hgroup
        rw [rowsOf_cons_of_ne (Ne.symm (of_decide_eq_true hne)), ih group hmem]
    · next hnone =>
      have hfirst := notMem_of_find?_eq_none hnone
      refine List.forall_mem_cons.mpr ⟨?_, fun group hgroup => ?_⟩
      · rw [rowsOf_cons_self, rowsOf_eq_nil_iff.mpr (mt mem_keys_groupByKey.mpr hfirst)]
      · have hne : first ≠ group.1 := fun h => hfirst (h ▸ List.mem_map_of_mem hgroup)
        rw [rowsOf_cons_of_ne hne, ih group hgroup]

/-- The groups by ascending key. -/
def sortedGroups (entries : List (Int × List SqlValue)) : List (Int × List (List SqlValue)) :=
  (groupByKey entries).mergeSort fun a b => a.1 ≤ b.1

theorem sortedGroups_perm : (sortedGroups entries).Perm (groupByKey entries) :=
  List.mergeSort_perm _ _

theorem mem_keys_sortedGroups :
    key ∈ (sortedGroups entries).map Prod.fst ↔ key ∈ entries.map Prod.fst := by
  rw [(sortedGroups_perm.map Prod.fst).mem_iff, mem_keys_groupByKey]

theorem sortedGroups_rows : ∀ group ∈ sortedGroups entries, group.2 = rowsOf group.1 entries :=
  fun group hgroup => groupByKey_rows group (sortedGroups_perm.mem_iff.mp hgroup)

/-- The keys ascend, so none of them comes twice. -/
theorem keys_sortedGroups_pairwise_lt :
    ((sortedGroups entries).map Prod.fst).Pairwise (· < ·) := by
  have hsorted : ((sortedGroups entries).map Prod.fst).Pairwise (· ≤ ·) := by
    rw [List.pairwise_map]
    refine List.Pairwise.imp of_decide_eq_true
      (List.pairwise_mergeSort (fun a b c hab hbc => ?_) (fun a b => ?_) (groupByKey entries))
    · exact decide_eq_true (Int.le_trans (of_decide_eq_true hab) (of_decide_eq_true hbc))
    · simpa using Int.le_total a.1 b.1
  have hnodup : ((sortedGroups entries).map Prod.fst).Nodup :=
    (sortedGroups_perm.map Prod.fst).nodup_iff.mpr nodup_keys_groupByKey
  exact (hsorted.and hnodup).imp Int.lt_iff_le_and_ne.mpr

end Groups

/-! ## The keys of one child table -/

/-- The row belongs to a key that refers to the table. -/
def refersTo (table : String) (row : List SqlValue) : Bool := sameName (textAt row 1) table

/-- The rows of a key that refer to the table, in order. -/
def rowsOfKey (table : String) (rows : List (List SqlValue)) (id : Int) : List (List SqlValue) :=
  rows.filter fun row => refersTo table row && integerAt row 0 = id

/-- **A key is what its rows say**: the columns that they pair, in order, and what the first of them
says of deleted rows.  Its name is made of the two tables, since the rows do not tell it. -/
structure IsKeyOfRows (table child : String) (rows : List (List SqlValue)) (r : Relationship) :
    Prop where
  name : ∃ token other, r.name = foreignKeyName token other child table
  primaryTable : r.primaryTable = table
  foreignTable : r.foreignTable = child
  keys : r.keys = rows.map fun row => (textAt row 3, textAt row 2)
  rule : ∃ first ∈ rows.head?, r.rule = CascadeRule.ofAction (textAt first 4)

/-- **The keys of a child table that refer to a table**: by ascending number, one for each number
that a row with a reference to the table has, made of the rows of that number.  No row with such a
reference is lost, and none goes to two keys. -/
def Reconstructs (table child : String) (rows : List (List SqlValue))
    (found : List Relationship) : Prop :=
  ∃ ids : List Int, ids.Pairwise (· < ·) ∧
    (∀ id, id ∈ ids ↔ ∃ row ∈ rows, refersTo table row = true ∧ integerAt row 0 = id) ∧
    List.Forall₂ (fun id r => IsKeyOfRows table child (rowsOfKey table rows id) r) ids found ∧
    (ids.flatMap (rowsOfKey table rows)).Perm (rows.filter (refersTo table))

variable {table child : String} {rows : List (List SqlValue)}

theorem isKeyOfRows_of_ne_nil (h : rows ≠ []) (token other : NameToken) :
    IsKeyOfRows table child rows
      { name := foreignKeyName token other child table
        primaryTable := table
        foreignTable := child
        keys := rows.map fun row => (textAt row 3, textAt row 2)
        rule := CascadeRule.ofAction (textAt (rows.headD []) 4) } := by
  obtain ⟨first, rest, rfl⟩ := List.exists_cons_of_ne_nil h
  refine ⟨⟨token, other, rfl⟩, rfl, rfl, rfl, first, List.head?_cons, ?_⟩
  rw [List.headD_cons]

theorem rowsOfKey_eq_filter (id : Int) :
    rowsOfKey table rows id =
      (rows.filter (refersTo table)).filter fun row => integerAt row 0 = id := by
  rw [rowsOfKey, List.filter_filter]
  exact List.filter_congr fun row _ => Bool.and_comm _ _

theorem rowsOfKey_eq (id : Int) :
    rowsOf id ((rows.filter (refersTo table)).map fun row => (integerAt row 0, row)) =
      rowsOfKey table rows id := by
  simp [rowsOf, rowsOfKey_eq_filter, List.filter_map, Function.comp_def]

/-- **The keys of a child table are reconstructed.** -/
theorem relationshipsOfRows_reconstructs (tokens : TokenSource) (table child : String)
    (rows : List (List SqlValue)) :
    Reconstructs table child rows (relationshipsOfRows tokens table child rows) := by
  let groups := sortedGroups ((rows.filter (refersTo table)).map fun row => (integerAt row 0, row))
  have hmem (id : Int) : id ∈ groups.map Prod.fst ↔
      ∃ row ∈ rows, refersTo table row = true ∧ integerAt row 0 = id := by
    rw [mem_keys_sortedGroups]
    simp [and_assoc]
  have hrows : ∀ group ∈ groups, group.2 = rowsOfKey table rows group.1 := fun group hgroup =>
    (sortedGroups_rows group hgroup).trans (rowsOfKey_eq group.1)
  have hasc : (groups.map Prod.fst).Pairwise (· < ·) := keys_sortedGroups_pairwise_lt
  refine ⟨groups.map Prod.fst, hasc, hmem, ?_, ?_⟩
  · refine List.forall₂_map_left_iff.mpr (forall₂_mapIdx fun i group hgroup => ?_)
    obtain ⟨row, hrow, hreferred⟩ := (hmem group.1).mp (List.mem_map_of_mem hgroup)
    rw [← hrows group hgroup]
    refine isKeyOfRows_of_ne_nil (List.ne_nil_of_mem (a := row) ?_) _ _
    rw [hrows group hgroup]
    exact List.mem_filter.mpr ⟨hrow, by simpa using hreferred⟩
  · have hdealt := perm_flatMap_filter (hasc.imp Int.ne_of_lt) fun row hrow =>
      (hmem (integerAt row 0)).mpr
        ⟨row, (List.mem_filter.mp hrow).1, (List.mem_filter.mp hrow).2, rfl⟩
    rwa [funext rowsOfKey_eq_filter]

/-! ## Child by child -/

/-- The query for the tables of a database. -/
def tablesQuery (database : String) : Command :=
  { text := "SELECT name, type FROM " ++ quoteName (databaseOrMain database) ++
      ".sqlite_master WHERE type IN ('table', 'view') AND name NOT LIKE 'sqlite\\_%' " ++
      "ESCAPE '\\' ORDER BY name" }

/-- The query for the foreign keys of a table. -/
def foreignKeysQuery (schema child : String) : Command :=
  { text := "SELECT id, \"table\", \"from\", \"to\", on_delete FROM " ++
      "pragma_foreign_key_list(@table, @schema) ORDER BY id, seq"
    parameters := [("@table", .text child), ("@schema", .text schema)] }

/-- A query that the engine has answered. -/
def answered (c : Connection) (command : Command) (rows : List (List SqlValue)) : Exchange :=
  ⟨.query c command, .ok rows⟩

/-- An action that has failed, and with it one of its queries. -/
def FailedByQuery {α : Type} (c : Connection) (outcome : Except SqlError α)
    (trace : List Exchange) : Prop :=
  ∃ e command, outcome = .error e ∧ (⟨.query c command, .error e⟩ : Exchange) ∈ trace

namespace FailedByQuery

variable {α : Type} {c : Connection} {outcome : Except SqlError α} {trace : List Exchange}

theorem last (command : Command) (e : SqlError) :
    FailedByQuery (α := α) c (.error e) [⟨.query c command, .error e⟩] :=
  ⟨e, command, rfl, List.mem_singleton_self _⟩

theorem cons (h : FailedByQuery c outcome trace) (first : Exchange) :
    FailedByQuery c outcome (first :: trace) := by
  obtain ⟨e, command, houtcome, hmem⟩ := h
  exact ⟨e, command, houtcome, List.mem_cons_of_mem _ hmem⟩

theorem isError (h : FailedByQuery c outcome trace) {a : α} : outcome ≠ .ok a := by
  obtain ⟨e, command, rfl, -⟩ := h
  exact nofun

end FailedByQuery

/-- **The keys of all children**, in the order of the children, where each of them has its own
answer. -/
inductive ReconstructsAll (table : String) :
    List TableInfo → List (List (List SqlValue)) → List Relationship → Prop
  | nil : ReconstructsAll table [] [] []
  | cons {child : TableInfo} {children : List TableInfo} {rows : List (List SqlValue)}
      {answers : List (List (List SqlValue))} {found more : List Relationship}
      (h : Reconstructs table child.name rows found)
      (hmore : ReconstructsAll table children answers more) :
      ReconstructsAll table (child :: children) (rows :: answers) (found ++ more)

/-- A query and what is done with its rows, which is nothing if it has failed. -/
theorem ensures_query_bind {α : Type} {c : Connection} {command : Command}
    {f : List (List SqlValue) → Action α} {post : Except SqlError α → List Exchange → Prop}
    (hok : ∀ rows, (f rows).run.Ensures fun outcome trace =>
      post outcome (answered c command rows :: trace))
    (herror : ∀ e, post (.error e) [⟨.query c command, .error e⟩]) :
    (Action.query c command >>= f).run.Ensures post := by
  refine .ask fun answer => ?_
  cases answer with
  | error e => exact .done (herror e)
  | ok rows => exact hok rows

/-- **Each child is asked for its keys**, one after the other. -/
theorem relationshipsOf_ensures (c : Connection) (schema table : String) (tokens : TokenSource)
    (children : List TableInfo) :
    (relationshipsOf c schema table tokens children).run.Ensures fun outcome trace =>
      FailedByQuery c outcome trace ∨
      ∃ answers found, outcome = .ok found ∧
        trace = List.zipWith
          (fun child rows => answered c (foreignKeysQuery schema child.name) rows)
          children answers ∧
        ReconstructsAll table children answers found := by
  induction children generalizing tokens with
  | nil => exact .done (.inr ⟨[], [], rfl, rfl, .nil⟩)
  | cons child children ih =>
    refine ensures_query_bind (fun rows => ?_) fun e => .inl (.last _ e)
    refine .bind (ih _) (fun more trace hmore => .done ?_) fun e trace hmore => ?_
    · rw [List.append_nil]
      obtain hfailed | ⟨answers, found, hfound, rfl, hall⟩ := hmore
      · exact absurd rfl hfailed.isError
      · obtain rfl := Except.ok.inj hfound
        exact .inr ⟨rows :: answers, _, rfl, rfl,
          .cons (relationshipsOfRows_reconstructs tokens table child.name rows) hall⟩
    · obtain hfailed | ⟨answers, found, hfound, -⟩ := hmore
      · exact .inl (hfailed.cons _)
      · contradiction

theorem listTables_ensures (c : Connection) (database : String) (includeViews : Bool) :
    (listTables c database includeViews).run.Ensures fun outcome trace =>
      FailedByQuery c outcome trace ∨
      ∃ rows, outcome = .ok (rows.filterMap (tableOfRow includeViews)) ∧
        trace = [answered c (tablesQuery database) rows] :=
  ensures_query_bind (fun rows => .done (.inr ⟨rows, rfl, rfl⟩)) fun e => .inl (.last _ e)

/-- **The relationships of a table are reconstructed completely**, whatever the catalog answers: if
it answers every query, then each table in the order of the catalog contributes the keys that its
own rows say, and nothing else. -/
theorem listRelationships_reconstructs (tokens : TokenSource) (c : Connection)
    (table : TableRef) :
    (listRelationships tokens c table).run.Ensures fun outcome trace =>
      FailedByQuery c outcome trace ∨
      ∃ tableRows answers found, outcome = .ok found ∧
        trace = answered c (tablesQuery (databaseOrMain table.database)) tableRows ::
          List.zipWith
            (fun child rows =>
              answered c (foreignKeysQuery (databaseOrMain table.database) child.name) rows)
            (tableRows.filterMap (tableOfRow false)) answers ∧
        ReconstructsAll table.table (tableRows.filterMap (tableOfRow false)) answers found := by
  refine .bind (listTables_ensures c _ false) (fun children first hlisted => ?_)
    fun e first hlisted => ?_
  · obtain hfailed | ⟨tableRows, hchildren, rfl⟩ := hlisted
    · exact absurd rfl hfailed.isError
    · obtain rfl := Except.ok.inj hchildren
      refine (relationshipsOf_ensures c _ table.table tokens _).mono fun outcome trace hall => ?_
      obtain hfailed | ⟨answers, found, hfound, htrace, hall⟩ := hall
      · exact .inl (hfailed.cons _)
      · exact .inr ⟨tableRows, answers, found, hfound, congrArg _ htrace, hall⟩
  · obtain ⟨e', command, he, hmem⟩ | ⟨tableRows, hchildren, -⟩ := hlisted
    · obtain rfl := Except.error.inj he
      exact .inl ⟨e, command, rfl, hmem⟩
    · contradiction

end Sqlite

end SqlDialects
