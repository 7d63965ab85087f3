import SqlDialects.Proofs.CreateTable.Batch
import SqlDialects.Proofs.CreateTable.Statement
import SqlDialects.Proofs.Identifier
import SqlDialects.Proofs.List
import SqlDialects.Proofs.TypeName.Spelling

/-!
# Where the statement that creates a table breaks

The statement is meant to be one batch.  The marks, words and commas that this library writes keep
the texts apart that come from the caller, so the statement breaks just if one of those texts does.
That a text stands between quotes there is of no account.

* `breaks_qualifiedName`, `breaks_columnLine`, `breaks_foreignKeyClause` — the parts.
* `breaks_createTableSql` — the statement.
-/

set_option autoImplicit false

namespace SqlDialects

open Text

/-! ## Names -/

/-- No separator line is made of the marks around names. -/
structure Quotes.IsSolid (q : Quotes) : Prop where
  openMark : SqlDialects.IsSolid defaultSeparator q.openMark
  closeMark : SqlDialects.IsSolid defaultSeparator q.closeMark

theorem Dialect.isSolid_quotes (dialect : Dialect) : dialect.style.quotes.IsSolid := by
  cases dialect <;> exact ⟨by decide, by decide⟩

theorem isBarrier_comma : IsBarrier defaultSeparator [','] :=
  ⟨by decide, by decide, ',', by decide, by decide⟩

namespace Quotes

variable {q : Quotes}

theorem breaks_append_doubleMarks (hq : q.IsSolid) (x name : Chars) :
    Breaks defaultSeparator (x ++ q.doubleMarks name) ↔ Breaks defaultSeparator (x ++ name) := by
  induction name generalizing x with
  | nil => rfl
  | cons c name ih =>
    rw [doubleMarks]
    split
    · next hc =>
      have hname := ih []
      rw [List.nil_append, List.nil_append] at hname
      have hmark := breaks_append_cons hq.closeMark [] (q.doubleMarks name)
      rw [List.nil_append, or_iff_right not_breaks_nil] at hmark
      rw [hc, breaks_append_cons hq.closeMark, breaks_append_cons hq.closeMark, hmark, hname]
    · rw [List.append_cons, ih, ← List.append_cons]

/-- A name breaks between quotes just if it breaks without them. -/
theorem breaks_quote (hq : q.IsSolid) (name : Chars) :
    Breaks defaultSeparator (q.quote name) ↔ Breaks defaultSeparator name := by
  have hbody := breaks_append_doubleMarks hq [] name
  rw [List.nil_append, List.nil_append] at hbody
  rw [quote, ← List.nil_append (q.openMark :: q.doubleMarks name), List.append_assoc,
    List.cons_append, breaks_append_cons hq.openMark, or_iff_right not_breaks_nil,
    breaks_append_cons hq.closeMark, or_iff_left not_breaks_nil, hbody]

theorem breaks_quotedList (hq : q.IsSolid) (names : List String) :
    Breaks defaultSeparator (quotedList q names) ↔
      ∃ name ∈ names, Breaks defaultSeparator name.toList := by
  simp only [quotedList, isBarrier_comma.breaks_intercalate, List.mem_map,
    exists_exists_and_eq_and, breaks_quote hq]

end Quotes

theorem breaks_written (dialect : Dialect) (name : String) :
    Breaks defaultSeparator (dialect.style.written name) ↔
      Breaks defaultSeparator (trim name.toList) := by
  rw [QueryStyle.written]
  split
  · rfl
  · exact Quotes.breaks_quote dialect.isSolid_quotes _

/-- The simple names that the qualified name of a table is made of, without white space around
them. -/
def Table.givenTexts (t : Table) : List Chars :=
  (t.dialect.style.tableParts t.database.name t.schema t.name).map fun name => trim name.toList

/-- **A qualified name** breaks just if one of its parts does. -/
theorem breaks_qualifiedName {t : Table} {text : String} (h : t.qualifiedName = .ok text) :
    Breaks defaultSeparator text.toList ↔ ∃ name ∈ t.givenTexts, Breaks defaultSeparator name := by
  have hbarrier : IsBarrier defaultSeparator
      (t.dialect.style.partSeparator t.database.name t.schema) := by
    rcases isSeparator_partSeparator t.dialect t.database.name t.schema with h | ⟨-, h⟩
    · rw [h]
      exact ⟨by decide, by decide, '.', by decide, by decide⟩
    · rw [h]
      exact ⟨by decide, by decide, '.', by decide, by decide⟩
  simp only [QueryStyle.qualifyTable_eq_ok h, hbarrier.breaks_intercalate, Table.givenTexts,
    List.mem_map, exists_exists_and_eq_and, breaks_written]

/-! ## Columns -/

theorem noLineFeed_suffix {suffix : Chars} (h : suffix.all isPlainSpelling = true) :
    '\n' ∉ suffix :=
  fun hmem => absurd (List.all_eq_true.mp h _ hmem) (by decide)

/-- Declared types are on one line. -/
theorem noLineFeed_declare (dialect : Dialect) (r : TypeRequest) :
    '\n' ∉ (dialect.declare r).toList := by
  have hnames : ∀ name ∈ dialect.types.fixedNames ++ dialect.types.widthNames ++
      [dialect.types.decimalName], '\n' ∉ name.toList := by
    cases dialect <;> decide
  rw [List.forall_mem_append, List.forall_mem_append] at hnames
  rcases declare_eq dialect r with h | ⟨name, hname, width, h⟩ | ⟨precision, scale, h⟩
  · exact hnames.1.1 _ h
  · rw [h, List.mem_append, not_or]
    exact ⟨hnames.1.2 name hname, noLineFeed_suffix (isPlainSpelling_widthSuffix width)⟩
  · rw [h, List.mem_append, not_or]
    exact ⟨hnames.2 _ (List.mem_singleton_self _),
      noLineFeed_suffix (isPlainSpelling_sizeSuffix precision scale)⟩

namespace ColumnRequest

/-- The texts in the definition of a column that come from the request: its name, its type if that
is given by name and stands there, and its collation. -/
def givenTexts (c : ColumnRequest) (dialect : Dialect) : List Chars :=
  c.name.toList ::
    ((c.explicitType.map fun sqlType => (c.writtenType dialect sqlType).toList).toList ++
      (c.collation.map String.toList).toList)

/-- What this library writes for a type does not break. -/
theorem breaks_writtenType {c : ColumnRequest} {dialect : Dialect} {sqlType : String}
    (h : c.sqlType dialect = .ok sqlType) :
    Breaks defaultSeparator (c.writtenType dialect sqlType).toList ↔
      ∃ t ∈ c.explicitType, Breaks defaultSeparator (c.writtenType dialect t).toList := by
  rw [ColumnRequest.sqlType] at h
  cases hexplicit : c.explicitType with
  | some t =>
    simp only [hexplicit] at h
    obtain rfl := Except.ok.inj h
    simp
  | none =>
    cases hrequest : c.typeRequest with
    | none =>
      simp only [hexplicit, hrequest] at h
      contradiction
    | some r =>
      simp only [hexplicit, hrequest] at h
      obtain rfl := Except.ok.inj h
      have hwritten : '\n' ∉ (c.writtenType dialect (dialect.declare r)).toList := by
        rw [writtenType]
        split
        · cases dialect
          case sqlite => exact (by decide : '\n' ∉ "INTEGER".toList)
          all_goals exact noLineFeed_declare _ r
        · exact noLineFeed_declare dialect r
      simp [not_breaks_of_notMem hwritten]

theorem noLineEnd_defaultClause (c : ColumnRequest) (dialect : Dialect) :
    '\n' ∉ (c.defaultClause dialect).toList ∧ '\r' ∉ (c.defaultClause dialect).toList := by
  rw [defaultClause]
  cases c.default <;> cases dialect <;> exact ⟨by decide, by decide⟩

theorem isBarrier_lastClauses (c : ColumnRequest) (dialect : Dialect) :
    IsBarrier defaultSeparator (c.lastClauses dialect).toList ∧
      ∃ d, (c.lastClauses dialect).toList.getLast? = some d ∧ IsSolid defaultSeparator d := by
  rw [lastClauses]
  cases c.mayBeNull <;> cases c.isAutoIncrement <;> cases dialect <;>
    exact ⟨⟨by decide, by decide, 'N', by decide, by decide⟩, _, rfl, by decide⟩

/-- Behind the type, only the collation comes from the request. -/
theorem breaks_append_clauses (c : ColumnRequest) (dialect : Dialect) (x : Chars) :
    Breaks defaultSeparator (x ++ ((c.defaultClause dialect).toList ++
        (c.collationClause.toList ++ (c.lastClauses dialect).toList))) ↔
      Breaks defaultSeparator x ∨ ∃ t ∈ c.collation, Breaks defaultSeparator t.toList := by
  obtain ⟨hfeed, hreturn⟩ := c.noLineEnd_defaultClause dialect
  obtain ⟨hlast, -⟩ := c.isBarrier_lastClauses dialect
  rw [← List.append_nil (c.lastClauses dialect).toList, collationClause]
  cases c.collation with
  | none =>
    rw [String.toList_empty, List.nil_append, ← List.append_assoc (c.defaultClause dialect).toList,
      (hlast.append hfeed hreturn).breaks_append_append]
    simp [not_breaks_nil]
  | some collation =>
    have hcollate : IsBarrier defaultSeparator " COLLATE ".toList :=
      ⟨by decide, by decide, 'C', by decide, by decide⟩
    rw [String.toList_append, List.append_assoc,
      ← List.append_assoc (c.defaultClause dialect).toList,
      (hcollate.append hfeed hreturn).breaks_append_append, hlast.breaks_append_append]
    simp [not_breaks_nil]

end ColumnRequest

theorem isFramed_quote (dialect : Dialect) (name : Chars) :
    IsFramed defaultSeparator (dialect.style.quotes.quote name) :=
  ⟨⟨_, rfl, dialect.isSolid_quotes.openMark⟩,
    ⟨_, List.getLast?_concat, dialect.isSolid_quotes.closeMark⟩⟩

/-- **The definition of a column** breaks just if one of the texts does that come from the
request. -/
theorem breaks_columnLine {dialect : Dialect} {c : ColumnRequest} {text : String}
    (h : columnLine dialect c = .ok text) :
    IsFramed defaultSeparator text.toList ∧
      (Breaks defaultSeparator text.toList ↔
        ∃ t ∈ c.givenTexts dialect, Breaks defaultSeparator t) := by
  obtain ⟨sqlType, htype, heq⟩ := columnLine_eq_ok h
  have hname := isFramed_quote dialect c.name.toList
  refine ⟨⟨?_, ?_⟩, ?_⟩
  · obtain ⟨d, hd, hsolid⟩ := hname.head
    exact ⟨d, by rw [heq, List.head?_append, hd, Option.some_or], hsolid⟩
  · obtain ⟨-, d, hd, hsolid⟩ := c.isBarrier_lastClauses dialect
    refine ⟨d, ?_, hsolid⟩
    simp only [heq, ← List.append_assoc, ← List.cons_append]
    rw [List.getLast?_append, hd, Option.some_or]
  · rw [heq, hname.breaks_append, Quotes.breaks_quote dialect.isSolid_quotes,
      ← List.singleton_append, append_breaks (by decide) (by decide), c.breaks_append_clauses,
      ColumnRequest.breaks_writtenType htype]
    simp [ColumnRequest.givenTexts, or_and_right, exists_or]

/-! ## Keys -/

theorem noLineEnd_of_isPlain {s : Chars} (h : ∀ c ∈ s, isPlain c = true) : '\n' ∉ s ∧ '\r' ∉ s :=
  ⟨fun hmem => absurd (h _ hmem) (by decide), fun hmem => absurd (h _ hmem) (by decide)⟩

/-- The definition of a primary key breaks only where the name of a column does. -/
theorem breaks_primaryKeyLine {dialect : Dialect} {token : NameToken} {table : String}
    {columns : List ColumnRequest} {lines : List String}
    (h : primaryKeyLine dialect token table columns = .ok lines) {text : String}
    (htext : text ∈ lines) :
    IsFramed defaultSeparator text.toList ∧
      (Breaks defaultSeparator text.toList →
        ∃ c ∈ columns, Breaks defaultSeparator c.name.toList) := by
  have hmem := List.mem_map_of_mem (f := String.toList) htext
  rw [primaryKeyLine_eq_ok h] at hmem
  split at hmem
  · obtain ⟨hfeed, hreturn⟩ := noLineEnd_of_isPlain (primaryKeyName_isPlain token table)
    rw [List.mem_singleton.mp hmem]
    refine ⟨⟨⟨'C', rfl, by decide⟩, ⟨')', ?_, by decide⟩⟩, fun hbreaks => ?_⟩
    · simp only [List.getLast?_append, List.getLast?_singleton, Option.some_or]
    rw [append_breaks (by decide) (by decide), append_breaks hfeed hreturn,
      append_breaks (by decide) (by decide), breaks_append (by decide),
      Quotes.breaks_quotedList dialect.isSolid_quotes] at hbreaks
    obtain ⟨name, hname, hbreaks⟩ := hbreaks
    obtain ⟨c, hc, rfl⟩ := List.mem_map.mp hname
    exact ⟨c, (List.mem_filter.mp hc).1, hbreaks⟩
  · contradiction

theorem breaks_commaList (items : List String) :
    Breaks defaultSeparator (commaList items).toList ↔
      ∃ item ∈ items, Breaks defaultSeparator item.toList := by
  rw [commaList, String.toList_intercalate]
  exact (isBarrier_comma.breaks_intercalate _).trans (by simp)

theorem breaks_foreignKeyClause {constraint : String}
    (h : ∀ c ∈ constraint.toList, isPlain c = true) (columns : List String)
    (primaryTable : String) (primaryColumns : List String) (cascade : Bool) :
    let clause := foreignKeyClause constraint columns primaryTable primaryColumns cascade
    IsFramed defaultSeparator clause.toList ∧
      (Breaks defaultSeparator clause.toList ↔
        (∃ item ∈ columns, Breaks defaultSeparator item.toList) ∨
          Breaks defaultSeparator primaryTable.toList ∨
          ∃ item ∈ primaryColumns, Breaks defaultSeparator item.toList) := by
  obtain ⟨hfeed, hreturn⟩ := noLineEnd_of_isPlain h
  have hreferences : IsBarrier defaultSeparator ") REFERENCES ".toList :=
    ⟨by decide, by decide, 'R', by decide, by decide⟩
  have hopen : IsBarrier defaultSeparator "(".toList :=
    ⟨by decide, by decide, '(', by decide, by decide⟩
  -- the last words depend on whether rows are deleted
  have hlast : '\n' ∉ ")".toList ++ (if cascade then " ON DELETE CASCADE" else "").toList := by
    cases cascade <;> decide
  obtain ⟨d, hd, hsolid⟩ : ∃ d, (")".toList ++ (if cascade then " ON DELETE CASCADE"
      else "").toList).getLast? = some d ∧ IsSolid defaultSeparator d := by
    cases cascade
    · exact ⟨')', rfl, by decide⟩
    · exact ⟨'E', rfl, by decide⟩
  intro clause
  rw [toList_foreignKeyClause]
  refine ⟨⟨⟨'C', rfl, by decide⟩, ⟨d, ?_, hsolid⟩⟩, ?_⟩
  · generalize ")".toList ++ (if cascade then " ON DELETE CASCADE" else "").toList = last at hd
    simp only [List.getLast?_append, hd, Option.some_or]
  · rw [append_breaks (by decide) (by decide), append_breaks hfeed hreturn,
      append_breaks (by decide) (by decide), hreferences.breaks_append_append,
      hopen.breaks_append_append, breaks_append hlast, breaks_commaList, breaks_commaList]

section Pairs

variable {dialect : Dialect} {table : String} {columns : List ColumnRequest}
  {keys : List (String × Column)} {pairs : List (String × String)}

theorem breaks_foreignColumns (h : foreignKeyPairs dialect table columns keys = .ok pairs)
    {item : String} (hitem : item ∈ pairs.map Prod.fst)
    (hbreaks : Breaks defaultSeparator item.toList) :
    ∃ c ∈ columns, Breaks defaultSeparator c.name.toList := by
  obtain ⟨pair, hpair, rfl⟩ := List.mem_map.mp hitem
  obtain ⟨-, -, c, hc, heq, -⟩ := exists_related_of_mem (foreignKeyPairs_eq_ok h) hpair
  rw [heq, Quotes.breaks_quote dialect.isSolid_quotes] at hbreaks
  exact ⟨c, hc, hbreaks⟩

/-- The columns that are referred to are quoted as their own servers do it. -/
theorem breaks_primaryColumns_iff (h : foreignKeyPairs dialect table columns keys = .ok pairs) :
    (∃ item ∈ pairs.map Prod.snd, Breaks defaultSeparator item.toList) ↔
      ∃ key ∈ keys, Breaks defaultSeparator key.2.name.toList := by
  simp only [List.mem_map, exists_exists_and_eq_and]
  refine (exists_mem_iff_of_forall₂ (foreignKeyPairs_eq_ok h) ?_).symm
  rintro key pair ⟨-, -, -, heq⟩
  rw [heq, Quotes.breaks_quote key.2.table.dialect.isSolid_quotes]

end Pairs

/-- The texts in the definition of the foreign key that come from the caller, but for the names of
columns of the new table. -/
def CreateTableArgs.foreignTexts (args : CreateTableArgs) : List Chars :=
  match args.foreignKeys with
  | [] => []
  | key :: rest => key.2.table.givenTexts ++ (key :: rest).map fun key => key.2.name.toList

theorem breaks_foreignKeyLine {dialect : Dialect} {token other : NameToken}
    {args : CreateTableArgs} {columns : List ColumnRequest} {lines : List String}
    (h : foreignKeyLine dialect token other args columns = .ok lines) :
    (∀ text ∈ lines, IsFramed defaultSeparator text.toList) ∧
      ((∃ t ∈ args.foreignTexts, Breaks defaultSeparator t) →
        ∃ text ∈ lines, Breaks defaultSeparator text.toList) ∧
      ((∃ text ∈ lines, Breaks defaultSeparator text.toList) →
        (∃ c ∈ columns, Breaks defaultSeparator c.name.toList) ∨
          ∃ t ∈ args.foreignTexts, Breaks defaultSeparator t) := by
  rw [CreateTableArgs.foreignTexts]
  rcases foreignKeyLine_eq_ok h with ⟨hkeys, rfl⟩ |
    ⟨first, rest, pairs, primaryTable, hkeys, hpairs, htable, rfl⟩
  · simp [hkeys]
  · obtain ⟨hframed, hclause⟩ := breaks_foreignKeyClause
      (foreignKeyName_isPlain token other args.table first.2.table.name) (pairs.map Prod.fst)
      primaryTable (pairs.map Prod.snd) args.cascade
    have hgiven : (∃ t ∈ first.2.table.givenTexts ++
          (first :: rest).map fun key => key.2.name.toList, Breaks defaultSeparator t) ↔
        Breaks defaultSeparator primaryTable.toList ∨
          ∃ item ∈ pairs.map Prod.snd, Breaks defaultSeparator item.toList := by
      rw [breaks_primaryColumns_iff hpairs, breaks_qualifiedName htable]
      simp only [List.mem_append, or_and_right, exists_or, List.mem_map, exists_exists_and_eq_and]
    simp only [hkeys, List.mem_singleton, forall_eq, exists_eq_left, hclause, hgiven]
    refine ⟨hframed, .inr, Or.imp_left ?_⟩
    rintro ⟨item, hitem, hbreaks⟩
    exact breaks_foreignColumns hpairs hitem hbreaks

/-! ## The statement -/

/-- **The texts in the statement that come from the caller.** -/
def CreateTableArgs.givenTexts (args : CreateTableArgs) (d : Database)
    (columns : List ColumnRequest) : List Chars :=
  (d.table args.table args.schema .table).givenTexts ++
    columns.flatMap (fun c => c.givenTexts d.dialect) ++ args.foreignTexts

/-- The definitions in the statement are framed, and what breaks among them is given. -/
theorem breaks_definitions {d : Database} {args : CreateTableArgs} {columns : List ColumnRequest}
    {token first second : NameToken} {columnLines primaryKey foreignKey : List String}
    (hcolumns : List.Forall₂ (fun c text => columnLine d.dialect c = .ok text) columns columnLines)
    (hprimary : primaryKeyLine d.dialect token args.table columns = .ok primaryKey)
    (hforeign : foreignKeyLine d.dialect first second args columns = .ok foreignKey) :
    (∀ text ∈ columnLines ++ primaryKey ++ foreignKey, IsFramed defaultSeparator text.toList) ∧
      ((∃ text ∈ columnLines ++ primaryKey ++ foreignKey, Breaks defaultSeparator text.toList) ↔
        ∃ t ∈ columns.flatMap (fun c => c.givenTexts d.dialect) ++ args.foreignTexts,
          Breaks defaultSeparator t) := by
  obtain ⟨hframed, hgiven, hbreaks⟩ := breaks_foreignKeyLine hforeign
  have hname : (∃ c ∈ columns, Breaks defaultSeparator c.name.toList) →
      ∃ t ∈ columns.flatMap fun c => c.givenTexts d.dialect, Breaks defaultSeparator t := by
    rintro ⟨c, hc, hbreaks⟩
    exact ⟨c.name.toList, List.mem_flatMap.mpr ⟨c, hc, List.mem_cons_self⟩, hbreaks⟩
  have hlines : (∃ text ∈ columnLines, Breaks defaultSeparator text.toList) ↔
      ∃ t ∈ columns.flatMap fun c => c.givenTexts d.dialect, Breaks defaultSeparator t := by
    rw [← exists_mem_iff_of_forall₂ hcolumns fun _ _ h => (breaks_columnLine h).2.symm]
    simp only [List.mem_flatMap]
    exact ⟨fun ⟨c, hc, t, ht, h⟩ => ⟨t, ⟨c, hc, ht⟩, h⟩,
      fun ⟨t, ⟨c, hc, ht⟩, h⟩ => ⟨c, hc, t, ht, h⟩⟩
  constructor
  · simp only [List.mem_append]
    rintro text ((htext | htext) | htext)
    · obtain ⟨c, -, hc⟩ := exists_related_of_mem hcolumns htext
      exact (breaks_columnLine hc).1
    · exact (breaks_primaryKeyLine hprimary htext).1
    · exact hframed text htext
  · simp only [List.mem_append, or_and_right, exists_or]
    constructor
    · rintro ((h | ⟨text, htext, h⟩) | h)
      · exact .inl (hlines.mp h)
      · exact .inl (hname ((breaks_primaryKeyLine hprimary htext).2 h))
      · exact (hbreaks h).imp_left hname
    · rintro (h | h)
      · exact .inl (.inl (hlines.mpr h))
      · exact .inr (hgiven h)

/-- **The statement** breaks just if one of the texts does that come from the caller. -/
theorem breaks_createTableSql {d : Database} {args : CreateTableArgs} {qualifiedName sql : String}
    {columns : List ColumnRequest} {tokens : TokenSource} (hne : columns ≠ [])
    (hname : d.dialect.style.qualifyTable d.name args.schema args.table = .ok qualifiedName)
    (h : createTableSql d.dialect tokens qualifiedName columns args = .ok sql) :
    IsFramed defaultSeparator sql.toList ∧
      (Breaks defaultSeparator sql.toList ↔
        ∃ t ∈ args.givenTexts d columns, Breaks defaultSeparator t) := by
  obtain ⟨columnLines, primaryKey, foreignKey, hcolumns, hprimary, hforeign, heq⟩ :=
    createTableSql_eq_ok h
  obtain ⟨hframed, hbreaks⟩ := breaks_definitions hcolumns hprimary hforeign
  obtain ⟨first, rest, hlines⟩ : ∃ first rest,
      (columnLines ++ primaryKey ++ foreignKey).map String.toList = first :: rest := by
    cases hcolumns with
    | nil => contradiction
    | cons => exact ⟨_, _, rfl⟩
  have hpieces : ∀ piece ∈ first :: rest, IsFramed defaultSeparator piece := by
    rw [← hlines, List.forall_mem_map]
    exact hframed
  obtain ⟨hbody, hbodyBreaks⟩ := breaks_intercalate_lines (c := ',') (by decide) hpieces
  have hend : IsFramed defaultSeparator [')'] := ⟨⟨')', rfl, by decide⟩, ⟨')', rfl, by decide⟩⟩
  have hopen : IsSolid defaultSeparator '(' := by decide
  have hall := hbody.append hend ['\n']
  rw [List.singleton_append] at hall
  rw [heq, hlines]
  constructor
  · obtain ⟨c, hc, hsolid⟩ := hall.last
    refine ⟨⟨'C', rfl, by decide⟩, ⟨c, ?_, hsolid⟩⟩
    rw [List.getLast?_append, List.getLast?_append, List.getLast?_cons, List.getLast?_cons, hc]
    rfl
  · -- the words and brackets in between break nothing
    have htable := breaks_qualifiedName (t := d.table args.table args.schema .table) hname
    have hgiven : (∃ t ∈ args.givenTexts d columns, Breaks defaultSeparator t) ↔
        (∃ t ∈ (d.table args.table args.schema .table).givenTexts, Breaks defaultSeparator t) ∨
          ∃ t ∈ columns.flatMap (fun c => c.givenTexts d.dialect) ++ args.foreignTexts,
            Breaks defaultSeparator t := by
      rw [CreateTableArgs.givenTexts, List.append_assoc]
      simp only [List.mem_append (s := (d.table args.table args.schema .table).givenTexts),
        or_and_right, exists_or]
    rw [append_breaks (by decide) (by decide), breaks_append_cons hopen, hall.cons_feed_breaks,
      hbody.breaks_append, hend.cons_feed_breaks, or_iff_left (not_breaks_of_notMem (by decide)),
      hbodyBreaks, ← hlines, hgiven, ← hbreaks, htable]
    simp only [List.mem_map, exists_exists_and_eq_and]

end SqlDialects
