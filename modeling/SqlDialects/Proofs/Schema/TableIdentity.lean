import SqlDialects.Proofs.CreateTable.Resolution
import SqlDialects.Proofs.Dialect.RuntimeName
import SqlDialects.Schema.Table

/-!
# Handles to one table

Two handles are compared by database, schema and name, whereas a table is reached by its qualified
name.  The qualified name leaves out what means nothing to the dialect: MySQL and Oracle have no
schemas, and SQLite has no databases either.  The comparison leaves out nothing.

* **Parts.**  From the text of a qualified name whose parts are bare names, the parts and the
  separators can be told again (`Quotes.intercalate_quote_inj`).
* **Handles.**  So what is left out is all that handles of one qualified name can differ in
  (`Table.same_iff_leftOutAgrees`).
* **Foreign keys.**  All columns that a foreign key refers to have to belong to one table.  If their
  handles have one qualified name, they are refused just when the handles differ in that
  (`Table.addForeignKey_refused_iff`, `Table.planCreateTable_refused`), for no other step fails with
  that error (`NeverSeveralTables`).

`Table.handles_of_one_name` puts this together.  It is about bare names: white space around a name,
and quotes that it has already, do not show in the text either, and the comparison sees them too.
-/

set_option autoImplicit false

namespace SqlDialects

open Text

/-! ## Parts of a qualified name -/

namespace Quotes

variable {q : Quotes}

theorem doubleMarks_inj {s t : Chars} (h : q.doubleMarks s = q.doubleMarks t) : s = t := by
  rw [← q.singleMarks_doubleMarks s, h, singleMarks_doubleMarks]

theorem isName_quote (name : Chars) : q.IsName (q.quote name) :=
  isName_iff_exists_quote.mpr ⟨name, rfl⟩

/-- A quoted name ends where no further closing mark follows. -/
theorem quote_append_inj {s t rest rest' : Chars} (hrest : rest.head? ≠ some q.closeMark)
    (hrest' : rest'.head? ≠ some q.closeMark)
    (h : q.quote s ++ rest = q.quote t ++ rest') : s = t ∧ rest = rest' := by
  simp only [quote, List.cons_append, List.append_assoc, List.nil_append, List.cons.injEq,
    true_and] at h
  have hafter := congrArg q.afterQuoted h
  rw [afterQuoted_doubleMarks s hrest, afterQuoted_doubleMarks t hrest'] at hafter
  obtain rfl := Option.some.inj hafter
  exact ⟨doubleMarks_inj (List.append_cancel_right h), rfl⟩

/-- Whether there is a gap between two points is told by what stands behind them. -/
theorem separator_append_inj {gaps : Bool} (hq : q.SparesPoints) {separator separator' s t : Chars}
    (hsep : IsSeparator gaps separator) (hsep' : IsSeparator gaps separator')
    (hs : s.head? = some q.openMark) (ht : t.head? = some q.openMark)
    (h : separator ++ s = separator' ++ t) : separator = separator' ∧ s = t := by
  have hpoint : ∀ {u : Chars}, u.head? = some q.openMark → ∀ v, u ≠ '.' :: v := by
    rintro u hu v rfl
    exact hq.1 (Option.some.inj hu).symm
  rcases hsep with rfl | ⟨-, rfl⟩ <;> rcases hsep' with rfl | ⟨-, rfl⟩ <;>
    simp only [List.cons_append, List.nil_append, List.cons.injEq, true_and] at h
  · exact ⟨rfl, h⟩
  · exact absurd h (hpoint hs _)
  · exact absurd h.symm (hpoint ht _)
  · exact ⟨rfl, h⟩

/-- All parts but the first, each behind a separator. -/
def furtherParts (q : Quotes) (separator : Chars) (parts : List Chars) : Chars :=
  parts.flatMap fun part => separator ++ q.quote part

theorem intercalate_quote_cons (separator first : Chars) (rest : List Chars) :
    separator.intercalate ((first :: rest).map q.quote) =
      q.quote first ++ q.furtherParts separator rest := by
  induction rest generalizing first with
  | nil => simp [furtherParts]
  | cons second rest ih =>
    rw [List.map_cons, List.map_cons, List.intercalate_cons_cons, ← List.map_cons, ih second,
      furtherParts, furtherParts, List.flatMap_cons]
    simp only [List.append_assoc]

section Separators

variable {gaps : Bool} {separator separator' : Chars} (hq : q.SparesPoints)
  (hsep : IsSeparator gaps separator) (hsep' : IsSeparator gaps separator')
include hq hsep

theorem head?_furtherParts_ne (parts : List Chars) :
    (q.furtherParts separator parts).head? ≠ some q.closeMark := by
  cases parts with
  | nil => simp [furtherParts]
  | cons part parts =>
    rw [furtherParts, List.flatMap_cons]
    rcases hsep with rfl | ⟨-, rfl⟩ <;> exact head?_point_ne hq _

include hsep'

theorem furtherParts_inj {parts parts' : List Chars}
    (h : q.furtherParts separator parts = q.furtherParts separator' parts') :
    parts = parts' ∧ (parts ≠ [] → separator = separator') := by
  have hsolid : ∀ {t}, IsSeparator gaps t → ∀ part rest, q.furtherParts t (part :: rest) ≠ [] := by
    rintro t (rfl | ⟨-, rfl⟩) part rest <;> simp [furtherParts]
  induction parts generalizing parts' with
  | nil =>
    cases parts' with
    | nil => exact ⟨rfl, fun hne => absurd rfl hne⟩
    | cons part' rest' => exact absurd h.symm (hsolid hsep' part' rest')
  | cons part rest ih =>
    cases parts' with
    | nil => exact absurd h (hsolid hsep part rest)
    | cons part' rest' =>
      simp only [furtherParts, List.flatMap_cons, List.append_assoc] at h
      obtain ⟨rfl, hquote⟩ := separator_append_inj hq hsep hsep' ((isName_quote part).head?_eq _)
        ((isName_quote part').head?_eq _) h
      obtain ⟨rfl, hrest⟩ := quote_append_inj (head?_furtherParts_ne hq hsep rest)
        (head?_furtherParts_ne hq hsep rest') hquote
      exact ⟨by rw [(ih hrest).1], fun _ => rfl⟩

/-- **The parts are told from the text**, and so is the separator if there is one. -/
theorem intercalate_quote_inj {parts parts' : List Chars} (hne : parts ≠ []) (hne' : parts' ≠ [])
    (h : separator.intercalate (parts.map q.quote) = separator'.intercalate (parts'.map q.quote)) :
    parts = parts' ∧ (1 < parts.length → separator = separator') := by
  obtain ⟨first, rest, rfl⟩ := List.exists_cons_of_ne_nil hne
  obtain ⟨first', rest', rfl⟩ := List.exists_cons_of_ne_nil hne'
  rw [intercalate_quote_cons, intercalate_quote_cons] at h
  obtain ⟨rfl, hrest⟩ := quote_append_inj (head?_furtherParts_ne hq hsep rest)
    (head?_furtherParts_ne hq hsep' rest') h
  obtain ⟨rfl, hseparator⟩ := furtherParts_inj hq hsep hsep' hrest
  refine ⟨rfl, fun hlength => hseparator fun hnil => ?_⟩
  simp [hnil] at hlength

end Separators

end Quotes

namespace QueryStyle

variable {style : QueryStyle} {name : String}

theorem IsBareName.isBlankText_eq (h : style.IsBareName name) : isBlankText name = false := by
  obtain ⟨text, htext⟩ := h.accepted
  rw [wrap, checkIdentifier] at htext
  by_contra hblank
  rw [Bool.not_eq_false] at hblank
  simp [hblank] at htext

theorem IsBareName.givenDatabase_eq (h : style.IsBareName name) : givenDatabase name = [name] := by
  rw [givenDatabase, h.isBlankText_eq, if_neg Bool.false_ne_true]

/-- A schema that is given by a bare name is given. -/
theorem givenSchema?_eq {schema : Option String} (h : ∀ name ∈ schema, style.IsBareName name) :
    givenSchema? schema = schema := by
  cases schema with
  | none => rfl
  | some name =>
    have hname := h name rfl
    have hne : name.isEmpty = false := by
      rw [Bool.eq_false_iff, ne_eq, String.isEmpty_iff]
      rintro rfl
      exact absurd hname.isBlankText_eq (by decide)
    rw [givenSchema?, Option.map_some, hname.tight, Option.filter_some, hne]
    rfl

end QueryStyle

open QueryStyle in
/-- **One text, one sequence of parts.** -/
theorem tableParts_eq_of_qualifyTable {dialect : Dialect} {database database' table table' : String}
    {schema schema' : Option String} {text : String}
    (hbare : ∀ part ∈ dialect.style.tableParts database schema table,
      dialect.style.IsBareName part)
    (hbare' : ∀ part ∈ dialect.style.tableParts database' schema' table',
      dialect.style.IsBareName part)
    (h : dialect.style.qualifyTable database schema table = .ok text)
    (h' : dialect.style.qualifyTable database' schema' table' = .ok text) :
    dialect.style.tableParts database schema table =
        dialect.style.tableParts database' schema' table' ∧
      (1 < (dialect.style.tableParts database schema table).length →
        dialect.style.partSeparator database schema =
          dialect.style.partSeparator database' schema') := by
  have hquotes : ∀ {parts : List String}, (∀ part ∈ parts, dialect.style.IsBareName part) →
      parts.map dialect.style.written =
        (parts.map String.toList).map dialect.style.quotes.quote := by
    intro parts hparts
    rw [List.map_map]
    exact List.map_congr_left fun part hpart => (hparts part hpart).written_eq
  have htext := qualifyTable_eq_ok h
  rw [qualifyTable_eq_ok h', hquotes hbare, hquotes hbare'] at htext
  obtain ⟨hparts, hseparator⟩ := Quotes.intercalate_quote_inj (sparesPoints_quotes dialect)
    (isSeparator_partSeparator dialect database' schema')
    (isSeparator_partSeparator dialect database schema)
    (by simpa using tableParts_ne_nil database' schema' table')
    (by simpa using tableParts_ne_nil database schema table) htext
  have heq := List.map_injective_iff.mpr (fun _ _ => String.toList_inj.mp) hparts
  refine ⟨heq.symm, fun hlength => (hseparator ?_).symm⟩
  rwa [List.length_map, heq]

/-! ## Comparing handles -/

namespace Table

theorem sameSchema_refl (style : QueryStyle) (a : Option String) : sameSchema style a a = true := by
  rw [sameSchema]
  cases a.or style.defaultSchema? with
  | none => rfl
  | some name => exact sameName_refl name

theorem sameSchema_comm (style : QueryStyle) (a b : Option String) :
    sameSchema style a b = sameSchema style b a := by
  rw [sameSchema, sameSchema]
  cases a.or style.defaultSchema? <;> cases b.or style.defaultSchema? <;>
    first | rfl | exact sameName_comm _ _

theorem sameSchema_trans {style : QueryStyle} {a b c : Option String}
    (hab : sameSchema style a b = true) (hbc : sameSchema style b c = true) :
    sameSchema style a c = true := by
  rw [sameSchema] at hab hbc ⊢
  cases ha : a.or style.defaultSchema? <;> cases hb : b.or style.defaultSchema? <;>
    cases hc : c.or style.defaultSchema? <;> simp only [ha, hb, hc] at hab hbc ⊢ <;>
    first | contradiction | exact sameName_trans hab hbc

theorem sameSchema_of_getD_eq {style : QueryStyle} {fallback : String} {a b : Option String}
    (hstyle : style.defaultSchema? = some fallback) (h : a.getD fallback = b.getD fallback) :
    sameSchema style a b = true := by
  simp only [sameSchema, hstyle, Option.or_some, h, sameName_refl]

theorem same_iff {t u : Table} :
    t.same u = true ↔ sameName t.database.name u.database.name = true ∧
      sameName t.name u.name = true ∧ sameSchema t.dialect.style t.schema u.schema = true := by
  rw [same, Bool.and_eq_true, Bool.and_eq_true, and_assoc]

/-- **The comparison is an equivalence** among the tables of one server. -/
theorem same_equivalence (server : Server) :
    Equivalence fun t u : {t : Table // t.database.server = server} => t.1.same u.1 = true where
  refl t := same_iff.mpr ⟨sameName_refl _, sameName_refl _, sameSchema_refl _ _⟩
  symm {t u} h := by
    have hdialect : u.1.dialect = t.1.dialect := congrArg Server.dialect (u.2.trans t.2.symm)
    obtain ⟨hdatabase, hname, hschema⟩ := same_iff.mp h
    rw [same_iff, sameName_comm, hdialect, sameSchema_comm, sameName_comm u.1.name]
    exact ⟨hdatabase, hname, hschema⟩
  trans {t u v} h h' := by
    have hdialect : u.1.dialect = t.1.dialect := congrArg Server.dialect (u.2.trans t.2.symm)
    obtain ⟨hdatabase, hname, hschema⟩ := same_iff.mp h
    obtain ⟨hdatabase', hname', hschema'⟩ := same_iff.mp h'
    exact same_iff.mpr ⟨sameName_trans hdatabase hdatabase', sameName_trans hname hname',
      sameSchema_trans hschema (hdialect ▸ hschema')⟩

/-! ## Handles of one qualified name -/

/-- What the qualified name says of the table is written as bare names: the table, the database
unless it is left out or empty, and the schema if there is one and it is not left out. -/
structure IsPlain (t : Table) : Prop where
  name : t.dialect.style.IsBareName t.name
  database : t.dialect ≠ .sqlite →
    t.database.name = "" ∨ t.dialect.style.IsBareName t.database.name
  schema : t.dialect = .mssql ∨ t.dialect = .postgres →
    ∀ name ∈ t.schema, t.dialect.style.IsBareName name

/-- Whether two handles agree in what the qualified names of the dialect leave out. -/
def LeftOutAgrees (t u : Table) : Prop :=
  match t.dialect with
  | .mssql | .postgres => True
  | .mysql | .oracle => sameSchema t.dialect.style t.schema u.schema = true
  | .sqlite => sameName t.database.name u.database.name = true ∧
      sameSchema t.dialect.style t.schema u.schema = true

theorem IsPlain.isBareName_tableParts {t : Table} (h : t.IsPlain) :
    ∀ part ∈ t.dialect.style.tableParts t.database.name t.schema t.name,
      t.dialect.style.IsBareName part := by
  obtain ⟨⟨⟨dialect, default, isTimeout, tokens⟩, database⟩, name, schema, type⟩ := t
  have hdatabase : dialect ≠ .sqlite →
      isBlankText database = true ∨ dialect.style.IsBareName database := fun hdialect =>
    (h.database hdialect).imp_left fun (hdb : database = "") => by rw [hdb]; rfl
  have hnone : ∀ name ∈ (none : Option String), dialect.style.IsBareName name := by simp
  have hempty : isBlankText "" = true := rfl
  cases dialect with
  | mssql =>
    exact SqlDialects.isBareName_tableParts (hdatabase (by decide)) (h.schema (.inl rfl)) h.name
  | postgres =>
    exact SqlDialects.isBareName_tableParts (hdatabase (by decide)) (h.schema (.inr rfl)) h.name
  -- What the dialect leaves out might as well be missing.
  | mysql | oracle =>
    have hparts : ∀ part ∈ _, _ :=
      SqlDialects.isBareName_tableParts (hdatabase (by decide)) hnone h.name
    exact hparts
  | sqlite =>
    have hparts : ∀ part ∈ _, _ := SqlDialects.isBareName_tableParts (.inl hempty) hnone h.name
    exact hparts

section Parts

open QueryStyle

variable {style : QueryStyle} {database database' : String}
  (hdatabase : database = "" ∨ style.IsBareName database)
  (hdatabase' : database' = "" ∨ style.IsBareName database')

include hdatabase in
theorem givenDatabase_cases :
    database = "" ∧ givenDatabase database = [] ∧ isBlankText database = true ∨
      givenDatabase database = [database] ∧ isBlankText database = false := by
  rcases hdatabase with rfl | hdatabase
  · exact .inl ⟨rfl, rfl, rfl⟩
  · exact .inr ⟨hdatabase.givenDatabase_eq, hdatabase.isBlankText_eq⟩

include hdatabase hdatabase'

theorem givenDatabase_inj (h : givenDatabase database = givenDatabase database') :
    database = database' := by
  obtain ⟨rfl, hnone, -⟩ | ⟨hgiven, -⟩ := givenDatabase_cases hdatabase <;>
    obtain ⟨rfl, hnone', -⟩ | ⟨hgiven', -⟩ := givenDatabase_cases hdatabase' <;> simp_all

/-- Where the schema has a slot, parts and separators tell the database and the schema apart. -/
theorem eq_of_schemaSlot {table table' : String} {schema schema' : Option String}
    (hstyle : style.qualification = .schemaSlot)
    (hschema : ∀ name ∈ schema, style.IsBareName name)
    (hschema' : ∀ name ∈ schema', style.IsBareName name)
    (hparts : style.tableParts database schema table = style.tableParts database' schema' table')
    (hseparator : 1 < (style.tableParts database schema table).length →
      style.partSeparator database schema = style.partSeparator database' schema') :
    database = database' ∧ table = table' ∧ schema = schema' := by
  simp only [tableParts, partSeparator, hstyle, givenSchema?_eq hschema,
    givenSchema?_eq hschema'] at hparts hseparator
  clear hschema hschema'
  obtain ⟨rfl, hnone, hblank⟩ | ⟨hgiven, hblank⟩ := givenDatabase_cases hdatabase <;>
    obtain ⟨rfl, hnone', hblank'⟩ | ⟨hgiven', hblank'⟩ := givenDatabase_cases hdatabase' <;>
    cases schema <;> cases schema' <;> simp_all

end Parts

/-- What the parts and the separators tell of handles to tables of one dialect, in plain spelling:
they differ in nothing but what is left out. -/
theorem same_iff_leftOutAgrees {t u : Table} {text : String}
    (hserver : t.database.server = u.database.server) (ht : t.IsPlain) (hu : u.IsPlain)
    (htext : t.qualifiedName = .ok text) (hutext : u.qualifiedName = .ok text) :
    t.same u = true ↔ t.LeftOutAgrees u := by
  have hdialect : u.dialect = t.dialect := congrArg Server.dialect hserver.symm
  have hbare := hu.isBareName_tableParts
  rw [hdialect] at hbare
  rw [qualifiedName, hdialect] at hutext
  obtain ⟨hparts, hseparator⟩ :=
    tableParts_eq_of_qualifyTable ht.isBareName_tableParts hbare htext hutext
  have hdatabase := ht.database
  have hdatabase' := hu.database
  have hschema := ht.schema
  have hschema' := hu.schema
  rw [hdialect] at hdatabase' hschema'
  -- what the name leaves out depends on the dialect
  rw [same_iff, LeftOutAgrees]
  cases hd : t.dialect with
  | mssql =>
    rw [hd] at hparts hseparator hdatabase hdatabase' hschema hschema'
    obtain ⟨hdb, hname, hsch⟩ := eq_of_schemaSlot (hdatabase (by decide)) (hdatabase' (by decide))
      rfl (hschema (.inl rfl)) (hschema' (.inl rfl)) hparts hseparator
    rw [hdb, hname, hsch]
    exact iff_of_true ⟨sameName_refl _, sameName_refl _, sameSchema_refl _ _⟩ trivial
  | postgres =>
    rw [hd] at hparts hdatabase hdatabase' hschema hschema'
    simp only [QueryStyle.tableParts, Dialect.style,
      QueryStyle.givenSchema?_eq (hschema (.inr rfl)),
      QueryStyle.givenSchema?_eq (hschema' (.inr rfl))] at hparts
    obtain ⟨hdb, hrest⟩ := List.append_inj' hparts rfl
    simp only [List.cons.injEq, and_true] at hrest
    rw [givenDatabase_inj (hdatabase (by decide)) (hdatabase' (by decide)) hdb, hrest.2]
    exact iff_of_true ⟨sameName_refl _, sameName_refl _, sameSchema_of_getD_eq rfl hrest.1⟩ trivial
  | mysql | oracle =>
    rw [hd] at hparts hdatabase hdatabase'
    simp only [QueryStyle.tableParts, Dialect.style] at hparts
    obtain ⟨hdb, hname⟩ := List.append_inj' hparts rfl
    rw [givenDatabase_inj (hdatabase (by decide)) (hdatabase' (by decide)) hdb,
      (List.cons.inj hname).1]
    simp only [sameName_refl, true_and]
  | sqlite =>
    rw [hd] at hparts
    simp only [QueryStyle.tableParts, Dialect.style, List.cons.injEq, and_true] at hparts
    rw [hparts]
    simp only [sameName_refl, true_and]

/-- The handle belongs to the server and has the qualified name, in plain spelling. -/
structure IsNamed (server : Server) (text : String) (t : Table) : Prop where
  server : t.database.server = server
  plain : t.IsPlain
  qualified : t.qualifiedName = .ok text

/-- The handles agree with each other in what the qualified names leave out. -/
def AllAgree (tables : List Table) : Prop := ∀ t ∈ tables, ∀ u ∈ tables, t.LeftOutAgrees u

section Named

variable {server : Server} {text : String}

theorem IsNamed.same_iff {t u : Table} (ht : t.IsNamed server text) (hu : u.IsNamed server text) :
    t.same u = true ↔ t.LeftOutAgrees u :=
  same_iff_leftOutAgrees (ht.server.trans hu.server.symm) ht.plain hu.plain ht.qualified
    hu.qualified

/-- Handles that are compared with the first of them are compared with each other. -/
theorem any_not_same_iff {α : Type} (handle : α → Table) {first : α} {rest : List α}
    (h : ∀ a ∈ first :: rest, (handle a).IsNamed server text) :
    ((first :: rest).any fun a => !(handle a).same (handle first)) = true ↔
      ¬AllAgree ((first :: rest).map handle) := by
  rw [← not_iff_not, not_not, Bool.not_eq_true, List.any_eq_false]
  have hfirst := h first List.mem_cons_self
  constructor
  · intro hsame
    have hall : ∀ a ∈ first :: rest, (handle a).same (handle first) = true := fun a ha => by
      simpa using hsame a ha
    have hequiv := same_equivalence server
    rw [AllAgree, List.forall_mem_map]
    refine fun a ha => List.forall_mem_map.mpr fun b hb => ((h a ha).same_iff (h b hb)).mp ?_
    exact hequiv.trans (x := ⟨_, (h a ha).server⟩) (y := ⟨_, hfirst.server⟩)
      (z := ⟨_, (h b hb).server⟩) (hall a ha)
      (hequiv.symm (x := ⟨_, (h b hb).server⟩) (y := ⟨_, hfirst.server⟩) (hall b hb))
  · intro hagree a ha
    have hsame := ((h a ha).same_iff hfirst).mpr (hagree _ (List.mem_map_of_mem ha) _
      (List.mem_map_of_mem List.mem_cons_self))
    simp [hsame]

end Named

end Table

/-! ## Errors -/

/-- The error says that a foreign key has several primary tables. -/
def SqlError.MeansSeveralTables : SqlError → Prop
  | .invalidArgument (.severalPrimaryTables _) | .invalidArgument (.plannedPrimaryTables _) => True
  | _ => False

/-- The computation is never refused for having several primary tables. -/
def NeverSeveralTables {α : Type} (x : Except SqlError α) : Prop :=
  FailsOnlyWith (fun e => ¬e.MeansSeveralTables) x

namespace NeverSeveralTables

theorem of_naming {α : Type} {x : Except SqlError α} (h : FailsOnlyWith SqlError.IsNaming x) :
    NeverSeveralTables x :=
  h.mono fun _ ⟨_, he⟩ => he ▸ id

theorem foreignKeyPairs (dialect : Dialect) (table : String) (columns : List ColumnRequest)
    (keys : List (String × Column)) :
    NeverSeveralTables (SqlDialects.foreignKeyPairs dialect table columns keys) := by
  induction keys with
  | nil => exact .ok []
  | cons key keys ih =>
    rw [SqlDialects.foreignKeyPairs]
    split
    · exact .error id
    · exact .bind (of_naming (QueryStyle.wrap_failsOnlyWith _ _)) fun foreignName =>
        .bind (of_naming (QueryStyle.wrap_failsOnlyWith _ _)) fun primaryName =>
          .bind ih fun pairs => .ok _

theorem columnLine (dialect : Dialect) (column : ColumnRequest) :
    NeverSeveralTables (SqlDialects.columnLine dialect column) := by
  have htype : NeverSeveralTables (column.sqlType dialect) := by
    rw [ColumnRequest.sqlType]
    split
    · exact .ok _
    · exact .ok _
    · exact .error id
  exact .bind htype fun sqlType => .bind (of_naming (QueryStyle.wrap_failsOnlyWith _ _)) fun name =>
    .ok _

theorem primaryKeyLine (dialect : Dialect) (token : NameToken) (table : String)
    (columns : List ColumnRequest) :
    NeverSeveralTables (SqlDialects.primaryKeyLine dialect token table columns) := by
  rw [SqlDialects.primaryKeyLine]
  split
  · exact .ok _
  · exact .bind (.mapM (fun column => of_naming (QueryStyle.wrap_failsOnlyWith _ _)) _)
      fun wrapped => .ok _

theorem checkPlannedNames (dialect : Dialect) (table : String) (columns : List ColumnRequest) :
    NeverSeveralTables (SqlDialects.checkPlannedNames dialect table columns) := by
  refine .bind (of_naming (QueryStyle.checkObjectName_failsOnlyWith _ _ _)) fun _ => ?_
  split
  · exact .error id
  · exact .forM (fun column => of_naming (QueryStyle.checkObjectName_failsOnlyWith _ _ _)) _

theorem resolve (column : ColumnRequest) (dialect : Dialect) :
    NeverSeveralTables (column.resolve dialect) := by
  rw [ColumnRequest.resolve]
  split
  · rw [Dialect.request]
    split
    · exact .error id
    all_goals exact .ok _
  · exact .ok _
  · exact .error id

theorem resolveColumns (args : CreateTableArgs) (dialect : Dialect) :
    NeverSeveralTables (args.resolveColumns dialect) := by
  have hcolumns : ∀ data index columns,
      NeverSeveralTables (args.resolveDataColumns dialect data index columns) := by
    intro data index columns
    induction columns generalizing index with
    | nil => exact .ok []
    | cons column rest ih =>
      refine .bind ?_ fun resolved => .bind (ih _) fun more => .ok _
      rw [CreateTableArgs.resolveColumn]
      split
      · exact (resolve _ dialect).map _
      · exact .ok _
  rw [CreateTableArgs.resolveColumns]
  split
  · exact .ok _
  · exact .bind (hcolumns _ _ _) fun resolved => .ok _

theorem createTableSql {dialect : Dialect} {args : CreateTableArgs}
    (h : ∀ token other columns,
      NeverSeveralTables (foreignKeyLine dialect token other args columns))
    (tokens : TokenSource) (name : String) (columns : List ColumnRequest) :
    NeverSeveralTables (SqlDialects.createTableSql dialect tokens name columns args) :=
  .bind (.mapM (columnLine dialect) columns) fun _ =>
    .bind (primaryKeyLine _ _ _ columns) fun _ => .bind (h _ _ columns) fun _ => .ok _

/-- Only the foreign key of a new table may be refused for that. -/
theorem planCreateTable {database : Database} {args : CreateTableArgs}
    (h : ∀ token other columns,
      NeverSeveralTables (foreignKeyLine database.dialect token other args columns)) :
    NeverSeveralTables (SqlDialects.planCreateTable database args) := by
  have hrest : NeverSeveralTables (do
      let resolution ← args.resolveColumns database.dialect
      let columns := args.adjust resolution.1
      SqlDialects.checkPlannedNames database.dialect args.table columns
      let qualifiedName ← database.dialect.style.qualifyTable database.name args.schema args.table
      let sql ← SqlDialects.createTableSql database.dialect database.server.tokens qualifiedName
        columns args
      pure ({ columns, inferredTypes := resolution.2, sql } : CreateTablePlan)) :=
    .bind (resolveColumns args _) fun resolved => .bind (checkPlannedNames _ _ _) fun _ =>
      .bind (of_naming (QueryStyle.qualifyTable_failsOnlyWith _ _ _ _)) fun name =>
      .bind (createTableSql h _ name _) fun sql => .ok _
  rw [SqlDialects.planCreateTable]
  split
  · refine .bind ?_ fun _ => hrest
    rw [checkDataKinds]
    split
    · exact .ok ()
    · exact .error id
  · exact hrest

end NeverSeveralTables

/-! ## Foreign keys -/

namespace Table

/-- An action that is not refused for several primary tables before anything is done. -/
def NotRefused {α : Type} (x : Action α) : Prop :=
  ∀ e, x.run = .done (.error e) → ¬e.MeansSeveralTables

theorem notRefused_bind {α β : Type} {x : Except SqlError α} {f : α → Action β}
    (hx : NeverSeveralTables x) (hf : ∀ a, NotRefused (f a)) :
    NotRefused ((liftM x : Action α) >>= f) := by
  cases x with
  | error e => exact fun e' h => hx e' (by cases h; rfl)
  | ok a => exact hf a

/-- Executing a statement asks the engine. -/
theorem notRefused_execute {α : Type} (t : Table) (transaction : Option Transaction) (sql : String)
    (f : Unit → Action α) : NotRefused (t.execute transaction sql >>= f) := by
  intro e h
  cases transaction <;> contradiction

theorem run_addForeignKey_of_error {t : Table} {pairs : List (Column × Column)} {e : SqlError}
    (h : primaryTable pairs = .error e) (cascade : Bool) (transaction : Option Transaction) :
    (t.addForeignKey pairs cascade transaction).run = .done (.error e) := by
  rw [addForeignKey, h]
  rfl

/-- Once the primary table has been settled, there are other reasons only. -/
theorem notRefused_addForeignKey (t : Table) {pairs : List (Column × Column)}
    (h : NeverSeveralTables (primaryTable pairs)) (cascade : Bool)
    (transaction : Option Transaction) :
    NotRefused (t.addForeignKey pairs cascade transaction) := by
  have hwrapped : ∀ columns : List Column, NeverSeveralTables (columns.mapM Column.wrappedName) :=
    .mapM fun column => NeverSeveralTables.of_naming (QueryStyle.wrap_failsOnlyWith _ _)
  have hqualified : ∀ u : Table, NeverSeveralTables u.qualifiedName := fun u =>
    .of_naming (QueryStyle.qualifyTable_failsOnlyWith _ _ _ _)
  have hsql : ∀ table constraint columns primary primaryColumns, NeverSeveralTables
      (t.dialect.addForeignKey table constraint columns primary primaryColumns cascade) := by
    intro table constraint columns primary primaryColumns
    unfold Dialect.addForeignKey
    split
    · exact .error id
    · exact .ok _
  rw [addForeignKey]
  refine notRefused_bind h fun primary => ?_
  split
  · exact fun e herror => by cases herror; exact id
  · exact notRefused_bind (hwrapped _) fun foreignColumns =>
      notRefused_bind (hwrapped _) fun primaryColumns =>
      notRefused_bind (hqualified t) fun table =>
      notRefused_bind (hqualified primary) fun primaryName =>
      notRefused_bind (hsql _ _ _ _ _) fun sql => t.notRefused_execute transaction sql _

variable {server : Server} {text : String}

/-- A foreign key that is added is refused for having several primary tables, before anything is
done, just when their handles differ in what the qualified names leave out. -/
theorem addForeignKey_refused_iff (t : Table) {pairs : List (Column × Column)} (cascade : Bool)
    (transaction : Option Transaction)
    (h : ∀ pair ∈ pairs, pair.2.table.IsNamed server text) :
    (∃ e, e.MeansSeveralTables ∧
        (t.addForeignKey pairs cascade transaction).run = .done (.error e)) ↔
      ¬AllAgree (pairs.map fun pair => pair.2.table) := by
  have hnot : NeverSeveralTables (primaryTable pairs) →
      ¬∃ e, e.MeansSeveralTables ∧
        (t.addForeignKey pairs cascade transaction).run = .done (.error e) :=
    fun hprimary ⟨e, he, hrun⟩ => t.notRefused_addForeignKey hprimary cascade transaction e hrun he
  cases pairs with
  | nil => exact iff_of_false (hnot (.error id)) (not_not_intro (by simp [AllAgree]))
  | cons pair rest =>
    obtain ⟨foreign, first⟩ := pair
    rw [← any_not_same_iff (fun pair : Column × Column => pair.2.table) h]
    by_cases hdiffer : (((foreign, first) :: rest).any fun pair =>
        !pair.2.table.same first.table) = true
    · have hrefused : primaryTable ((foreign, first) :: rest) =
          .error (.invalidArgument (.severalPrimaryTables
            (((foreign, first) :: rest).map fun pair => pair.2.table.name))) := by
        rw [primaryTable, List.all_eq_not_any_not, hdiffer]
        rfl
      refine iff_of_true ⟨_, ?_, run_addForeignKey_of_error hrefused cascade transaction⟩ hdiffer
      exact trivial
    · refine iff_of_false (hnot ?_) hdiffer
      rw [Bool.not_eq_true] at hdiffer
      rw [primaryTable, List.all_eq_not_any_not, hdiffer]
      exact .ok _

/-- The foreign key of a new table is refused for having several primary tables just when their
handles differ in what the qualified names leave out. -/
theorem foreignKeyLine_refused (dialect : Dialect) (token other : NameToken)
    {args : CreateTableArgs} (columns : List ColumnRequest)
    (h : ∀ key ∈ args.foreignKeys, key.2.table.IsNamed server text) :
    (AllAgree (args.foreignKeys.map fun key => key.2.table) →
      NeverSeveralTables (foreignKeyLine dialect token other args columns)) ∧
    (¬AllAgree (args.foreignKeys.map fun key => key.2.table) →
      foreignKeyLine dialect token other args columns =
        .error (.invalidArgument (.plannedPrimaryTables args.table))) := by
  rw [foreignKeyLine]
  cases hkeys : args.foreignKeys with
  | nil => exact ⟨fun _ => .ok [], fun hdiffer => absurd (by simp [AllAgree]) hdiffer⟩
  | cons key rest =>
    obtain ⟨name, first⟩ := key
    rw [hkeys] at h
    have hany := any_not_same_iff (fun key : String × Column => key.2.table) h
    refine ⟨fun hagree => ?_, fun hdiffer => ?_⟩
    · simp only [Bool.eq_false_iff.mpr (hany.not_left.mpr hagree), Bool.false_eq_true, if_false]
      exact .bind (NeverSeveralTables.foreignKeyPairs _ _ _ _) fun pairs =>
        .bind (NeverSeveralTables.of_naming (QueryStyle.qualifyTable_failsOnlyWith _ _ _ _))
          fun primary => .ok _
    · simp only [hany.mpr hdiffer, if_true]
      rfl

/-- The plan of a new table is never refused for that if the handles agree, and there is none
otherwise. -/
theorem planCreateTable_refused (database : Database) {args : CreateTableArgs}
    (h : ∀ key ∈ args.foreignKeys, key.2.table.IsNamed server text) :
    (AllAgree (args.foreignKeys.map fun key => key.2.table) →
      NeverSeveralTables (planCreateTable database args)) ∧
    (¬AllAgree (args.foreignKeys.map fun key => key.2.table) →
      ∀ plan, planCreateTable database args ≠ .ok plan) := by
  have hline := fun token other columns =>
    foreignKeyLine_refused database.dialect token other columns h
  refine ⟨fun hagree => .planCreateTable fun token other columns =>
    (hline token other columns).1 hagree, ?_⟩
  intro hdiffer plan hplan
  obtain ⟨name, hplanned⟩ := exists_planned hplan
  obtain ⟨_, _, hsql⟩ := exists_of_bind_eq_ok hplanned.statement
  obtain ⟨_, _, hsql⟩ := exists_of_bind_eq_ok hsql
  obtain ⟨_, hforeign, _⟩ := exists_of_bind_eq_ok hsql
  rw [(hline _ _ _).2 hdiffer] at hforeign
  contradiction

/-- **Handles of one qualified name**, in plain spelling, are compared as equal, and foreign keys to
them are never refused for having several primary tables, as long as the handles agree in what the
qualified names leave out.  The comparison is an equivalence among the tables of a server. -/
theorem handles_of_one_name (server : Server) (text : String) :
    (Equivalence fun t u : {t : Table // t.database.server = server} => t.1.same u.1 = true) ∧
    (∀ t u : Table, t.IsNamed server text → u.IsNamed server text →
      (t.same u = true ↔ t.LeftOutAgrees u)) ∧
    (∀ (t : Table) (pairs : List (Column × Column)) (cascade : Bool)
        (transaction : Option Transaction), (∀ pair ∈ pairs, pair.2.table.IsNamed server text) →
      ((∃ e, e.MeansSeveralTables ∧
          (t.addForeignKey pairs cascade transaction).run = .done (.error e)) ↔
        ¬AllAgree (pairs.map fun pair => pair.2.table))) ∧
    ∀ (database : Database) (args : CreateTableArgs),
      (∀ key ∈ args.foreignKeys, key.2.table.IsNamed server text) →
      (AllAgree (args.foreignKeys.map fun key => key.2.table) →
        ∀ e, planCreateTable database args = .error e → ¬e.MeansSeveralTables) ∧
      (¬AllAgree (args.foreignKeys.map fun key => key.2.table) →
        ∀ plan, planCreateTable database args ≠ .ok plan) :=
  ⟨same_equivalence server, fun _ _ ht hu => ht.same_iff hu,
    fun t _ cascade transaction h => t.addForeignKey_refused_iff cascade transaction h,
    fun database _ h => planCreateTable_refused database h⟩

/-- A table of MySQL in the given schema, of which MySQL has none. -/
def stock (schema : Option String) : Table :=
  ⟨⟨⟨.mysql, none, fun _ => false, default⟩, "shop"⟩, "stock", schema, .table⟩

theorem isNamed_stock (schema : Option String) :
    (stock schema).IsNamed (stock none).database.server "\x60shop\x60.\x60stock\x60" := by
  have hname : Dialect.mysql.style.IsBareName "stock" := ⟨⟨_, rfl⟩, rfl, by decide⟩
  have hdatabase : Dialect.mysql.style.IsBareName "shop" := ⟨⟨_, rfl⟩, rfl, by decide⟩
  have hqualified : Dialect.mysql.style.qualifyTable "shop" schema "stock" =
      .ok "\x60shop\x60.\x60stock\x60" := rfl
  exact
    { server := rfl
      plain := ⟨hname, fun _ => .inr hdatabase, fun h => by rcases h with h | h <;> contradiction⟩
      qualified := hqualified }

/-- Schemas that differ by case only. -/
theorem handles_of_one_name_by_case :
    (stock (some "Sales")).qualifiedName = (stock (some "sales")).qualifiedName ∧
      (stock (some "Sales")).same (stock (some "sales")) = true := by
  have hnamed := (handles_of_one_name (stock none).database.server
    "\x60shop\x60.\x60stock\x60").2.1 _ _ (isNamed_stock (some "Sales"))
      (isNamed_stock (some "sales"))
  refine ⟨rfl, hnamed.mpr ?_⟩
  have hschema : sameSchema Dialect.mysql.style (some "Sales") (some "sales") = true := by decide
  exact hschema

/-- A column that others may refer to. -/
def stockNumber (schema : Option String) : Column where
  name := "number"
  nullable := false
  isPrimaryKey := true
  isAutoIncrement := false
  collation := none
  type := ⟨stock schema, "number", "int", false, []⟩

/-- The same table with a schema and without: the qualified names are the same, and the handles are
not. -/
theorem handles_with_schema_and_without :
    (stock none).qualifiedName = .ok "\x60shop\x60.\x60stock\x60" ∧
      (stock (some "sales")).qualifiedName = .ok "\x60shop\x60.\x60stock\x60" ∧
      (stock (some "sales")).same (stock none) = false ∧
      primaryTable [(stockNumber none, stockNumber none),
          (stockNumber none, stockNumber (some "sales"))] =
        .error (.invalidArgument (.severalPrimaryTables ["stock", "stock"])) :=
  ⟨rfl, rfl, by decide, rfl⟩

end Table

end SqlDialects
