import SqlDialects.CreateTable.Plan
import SqlDialects.Proofs.Dialect.QualifiedName
import SqlDialects.Proofs.Except

/-!
# The text of the statement that creates a table

The statement names the table and then, between parentheses and with commas between them, defines
its columns, the primary key if that is not said elsewhere, and the foreign key if there is one.
This file takes the text apart once, so that what is proved about it need not go through the
functions that write it.

* `columnLine_eq_ok` — the definition of a column: the quoted name, the type, and the clauses behind
  them.
* `primaryKeyLine_eq_ok`, `foreignKeyLine_eq_ok` — the definitions of keys.
* `createTableSql_eq_ok` — the statement.
-/

set_option autoImplicit false

namespace SqlDialects

open Text

/-! ## Columns -/

namespace ColumnRequest

/-- The type as it stands in the definition of the column. -/
def writtenType (c : ColumnRequest) (dialect : Dialect) (sqlType : String) : String :=
  if c.isAutoIncrement then dialect.autoIncrementType sqlType else sqlType

/-- The clause for the default. -/
def defaultClause (c : ColumnRequest) (dialect : Dialect) : String :=
  match c.default.function? with
  | some function => " default " ++ dialect.style.call function
  | none => ""

/-- The clause for the collation. -/
def collationClause (c : ColumnRequest) : String :=
  match c.collation with
  | some collation => " COLLATE " ++ collation
  | none => ""

/-- The clause that says whether the column may be null, and the one for counting up. -/
def lastClauses (c : ColumnRequest) (dialect : Dialect) : String :=
  " " ++ nullClause c.mayBeNull ++
    if c.isAutoIncrement then " " ++ dialect.style.autoIncrement else ""

end ColumnRequest

/-- **The definition of a column.** -/
theorem columnLine_eq_ok {dialect : Dialect} {c : ColumnRequest} {text : String}
    (h : columnLine dialect c = .ok text) :
    ∃ sqlType, c.sqlType dialect = .ok sqlType ∧
      text.toList = dialect.style.quotes.quote c.name.toList ++
        ' ' :: ((c.writtenType dialect sqlType).toList ++ ((c.defaultClause dialect).toList ++
          (c.collationClause.toList ++ (c.lastClauses dialect).toList))) := by
  obtain ⟨sqlType, htype, h⟩ := exists_of_bind_eq_ok h
  obtain ⟨name, hname, h⟩ := exists_of_bind_eq_ok h
  refine ⟨sqlType, htype, ?_⟩
  rw [← Except.ok.inj h, ← QueryStyle.wrap_eq_ok hname]
  simp only [ColumnRequest.lastClauses, String.toList_append, List.append_assoc]
  rfl

/-! ## Keys -/

/-- Names between quotes, with commas between them. -/
def quotedList (q : Quotes) (names : List String) : Chars :=
  [','].intercalate (names.map fun name => q.quote name.toList)

theorem toList_commaList {α : Type} {q : Quotes} {name : α → String} {l : List α}
    {wrapped : List String}
    (h : List.Forall₂ (fun a text => text.toList = q.quote (name a).toList) l wrapped) :
    (commaList wrapped).toList = quotedList q (l.map name) := by
  have hwrapped : wrapped.map String.toList = (l.map name).map fun name => q.quote name.toList := by
    rw [List.map_map, ← List.forall₂_eq_eq_eq, List.forall₂_map_left_iff,
      List.forall₂_map_right_iff]
    exact h.flip
  rw [commaList, String.toList_intercalate, hwrapped, quotedList]
  rfl

/-- Whether the statement defines the primary key apart from the columns. -/
def writesPrimaryKey (dialect : Dialect) (columns : List ColumnRequest) : Prop :=
  columns.filter ColumnRequest.isPrimaryKey ≠ [] ∧
    (dialect.countsUpPrimaryKey && columns.any ColumnRequest.isAutoIncrement) = false

instance (dialect : Dialect) (columns : List ColumnRequest) :
    Decidable (writesPrimaryKey dialect columns) :=
  inferInstanceAs (Decidable (_ ∧ _))

/-- **The definition of the primary key.** -/
theorem primaryKeyLine_eq_ok {dialect : Dialect} {token : NameToken} {table : String}
    {columns : List ColumnRequest} {lines : List String}
    (h : primaryKeyLine dialect token table columns = .ok lines) :
    lines.map String.toList =
      if writesPrimaryKey dialect columns then
        ["CONSTRAINT ".toList ++ ((primaryKeyName token table).toList ++ (" PRIMARY KEY (".toList ++
          (quotedList dialect.style.quotes
            ((columns.filter ColumnRequest.isPrimaryKey).map ColumnRequest.name) ++ [')'])))]
      else [] := by
  rw [primaryKeyLine] at h
  by_cases hwrites : writesPrimaryKey dialect columns
  · obtain ⟨hkey, hinline⟩ := id hwrites
    rw [if_pos hwrites]
    simp only [hinline, Bool.or_false, List.isEmpty_iff, hkey, if_false] at h
    obtain ⟨wrapped, hwrapped, h⟩ := exists_of_bind_eq_ok h
    have hquoted := (forall₂_of_mapM_eq_ok hwrapped).imp fun c text => QueryStyle.wrap_eq_ok
    rw [← Except.ok.inj h, List.map_singleton, primaryKeyClause, ← toList_commaList hquoted]
    simp only [String.toList_append, List.append_assoc]
    rfl
  · rw [if_neg hwrites]
    rw [writesPrimaryKey, not_and_or, not_not, Bool.not_eq_false] at hwrites
    rw [if_pos] at h
    · rw [← Except.ok.inj h]
      rfl
    · rw [Bool.or_eq_true, List.isEmpty_iff]
      exact hwrites

/-- The names of the columns that refer, and the names of those that they refer to. -/
theorem foreignKeyPairs_eq_ok {dialect : Dialect} {table : String} {columns : List ColumnRequest}
    {keys : List (String × Column)} {pairs : List (String × String)}
    (h : foreignKeyPairs dialect table columns keys = .ok pairs) :
    List.Forall₂ (fun key pair => ∃ column ∈ columns,
      pair.1.toList = dialect.style.quotes.quote column.name.toList ∧
      pair.2.toList = key.2.table.dialect.style.quotes.quote key.2.name.toList) keys pairs := by
  induction keys generalizing pairs with
  | nil =>
    obtain rfl := Except.ok.inj h
    exact .nil
  | cons key keys ih =>
    obtain ⟨name, primary⟩ := key
    rw [foreignKeyPairs] at h
    cases hfind : columns.find? fun column => sameName column.name name with
    | none =>
      simp only [hfind] at h
      contradiction
    | some column =>
      simp only [hfind] at h
      obtain ⟨foreignName, hforeign, h⟩ := exists_of_bind_eq_ok h
      obtain ⟨primaryName, hprimary, h⟩ := exists_of_bind_eq_ok h
      obtain ⟨rest, hrest, h⟩ := exists_of_bind_eq_ok h
      obtain rfl := Except.ok.inj h
      exact .cons ⟨column, List.mem_of_find?_eq_some hfind, QueryStyle.wrap_eq_ok hforeign,
        QueryStyle.wrap_eq_ok hprimary⟩ (ih hrest)

/-- What stands between the names in the definition of a foreign key. -/
theorem toList_foreignKeyClause (constraint : String) (columns : List String)
    (primaryTable : String) (primaryColumns : List String) (cascade : Bool) :
    (foreignKeyClause constraint columns primaryTable primaryColumns cascade).toList =
      "CONSTRAINT ".toList ++ (constraint.toList ++ (" FOREIGN KEY (".toList ++
        ((commaList columns).toList ++ (") REFERENCES ".toList ++ (primaryTable.toList ++
          ("(".toList ++ ((commaList primaryColumns).toList ++
            (")".toList ++ (if cascade then " ON DELETE CASCADE" else "").toList)))))))) := by
  unfold foreignKeyClause
  simp only [String.toList_append]
  simp only [List.append_assoc]

/-- **The definition of the foreign key.** -/
theorem foreignKeyLine_eq_ok {dialect : Dialect} {token other : NameToken} {args : CreateTableArgs}
    {columns : List ColumnRequest} {lines : List String}
    (h : foreignKeyLine dialect token other args columns = .ok lines) :
    (args.foreignKeys = [] ∧ lines = []) ∨
      ∃ key rest pairs primaryTable, args.foreignKeys = key :: rest ∧
        foreignKeyPairs dialect args.table columns (key :: rest) = .ok pairs ∧
        key.2.table.qualifiedName = .ok primaryTable ∧
        lines = [foreignKeyClause (foreignKeyName token other args.table key.2.table.name)
          (pairs.map Prod.fst) primaryTable (pairs.map Prod.snd) args.cascade] := by
  rw [foreignKeyLine] at h
  cases hkeys : args.foreignKeys with
  | nil =>
    simp only [hkeys] at h
    exact .inl ⟨rfl, (Except.ok.inj h).symm⟩
  | cons key rest =>
    simp only [hkeys] at h
    split at h
    · contradiction
    obtain ⟨pairs, hpairs, h⟩ := exists_of_bind_eq_ok h
    obtain ⟨primaryTable, htable, h⟩ := exists_of_bind_eq_ok h
    exact .inr ⟨key, rest, pairs, primaryTable, rfl, hpairs, htable, (Except.ok.inj h).symm⟩

/-! ## The statement -/

/-- **The statement**: what it defines stands on lines of their own. -/
theorem createTableSql_eq_ok {dialect : Dialect} {tokens : TokenSource}
    {qualifiedName sql : String} {columns : List ColumnRequest} {args : CreateTableArgs}
    (h : createTableSql dialect tokens qualifiedName columns args = .ok sql) :
    ∃ columnLines primaryKey foreignKey,
      List.Forall₂ (fun c text => columnLine dialect c = .ok text) columns columnLines ∧
      primaryKeyLine dialect (tokens 0) args.table columns = .ok primaryKey ∧
      foreignKeyLine dialect (tokens 1) (tokens 2) args columns = .ok foreignKey ∧
      sql.toList = "CREATE TABLE ".toList ++ (qualifiedName.toList ++ '(' :: '\n' ::
        ([',', '\n'].intercalate ((columnLines ++ primaryKey ++ foreignKey).map String.toList) ++
          ['\n', ')'])) := by
  obtain ⟨columnLines, hcolumns, h⟩ := exists_of_bind_eq_ok h
  obtain ⟨primaryKey, hprimary, h⟩ := exists_of_bind_eq_ok h
  obtain ⟨foreignKey, hforeign, h⟩ := exists_of_bind_eq_ok h
  refine ⟨columnLines, primaryKey, foreignKey, forall₂_of_mapM_eq_ok hcolumns, hprimary, hforeign,
    ?_⟩
  rw [← Except.ok.inj h]
  simp only [String.toList_append, String.toList_intercalate, List.append_assoc]
  rfl

end SqlDialects
