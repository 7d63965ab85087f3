import SqlDialects.Dialect.Style
import SqlDialects.Proofs.Dialect.QuotedName
import SqlDialects.Proofs.Except

/-!
# Qualified table names

A qualified name is put together from simple names.  Each of them goes between quotes, unless it
looks quoted: then it is taken over as it is.  What it looks like is decided by its first and its
last character, so a name such as `[a]; DROP TABLE b; --]` is taken over too, although its first
quotation ends early and the rest of it stands in the statement as text of its own.

* `qualifyTable_spells` — the text is made of `QueryStyle.tableParts`, and between them stands
  `QueryStyle.partSeparator`, which has two points where the schema is left out; and where there is
  no text, one of the parts is at fault.
* `qualifyTable_isNameSequence_iff` — for which names the text is a sequence of quoted names: for
  all that are quoted here, and among those taken over for the well-formed ones.
-/

set_option autoImplicit false

namespace SqlDialects

open Text

/-- The error is about a name. -/
def SqlError.IsNaming (e : SqlError) : Prop := ∃ fault, e = .naming fault

namespace QueryStyle

variable {style : QueryStyle}

/-! ## Simple names -/

/-- How a simple name is written. -/
def written (style : QueryStyle) (name : String) : Chars :=
  if style.quotes.looksQuoted (trim name.toList) then trim name.toList
  else style.quotes.quote (trim name.toList)

theorem wrap_eq_ok {name text : String} (h : style.wrap name = .ok text) :
    text.toList = style.quotes.quote name.toList := by
  rw [wrap] at h
  cases hcheck : checkIdentifier name with
  | error fault => simp [hcheck] at h
  | ok =>
    by_cases hsep : contains style.separator.toList name.toList = true
    · simp [hcheck, hsep] at h
    · simp only [hcheck, hsep, Bool.false_eq_true, if_false, Except.ok.injEq] at h
      rw [← h, String.toList_ofList]

theorem ensureWrapped_eq_ok {name text : String} (h : style.ensureWrapped name = .ok text) :
    text.toList = style.written name := by
  have htrimmed : (trimmed name).toList = trim name.toList := String.toList_ofList
  rw [ensureWrapped] at h
  by_cases hq : style.quotes.looksQuoted (trim name.toList) = true
  · rw [htrimmed, if_pos hq, Except.ok.injEq] at h
    rw [written, if_pos hq, ← h, htrimmed]
  · rw [htrimmed, if_neg hq] at h
    rw [written, if_neg hq, wrap_eq_ok h, htrimmed]

theorem checkObjectName_failsOnlyWith (style : QueryStyle) (object : ObjectKind) (name : String) :
    FailsOnlyWith SqlError.IsNaming (style.checkObjectName object name) := by
  have hmap : ∀ x : Except NamingFault Unit,
      FailsOnlyWith SqlError.IsNaming (x.mapError SqlError.naming) := by
    rintro (fault | _)
    · exact .error ⟨fault, rfl⟩
    · exact .ok ()
  exact hmap _

/-- A name that cannot be written is at fault itself. -/
theorem wrap_failsOnlyWith (style : QueryStyle) (name : String) :
    FailsOnlyWith SqlError.IsNaming (style.wrap name) := by
  rw [wrap]
  split
  · exact .error ⟨_, rfl⟩
  · split
    · exact .error ⟨_, rfl⟩
    · exact .ok _

theorem ensureWrapped_failsOnlyWith (style : QueryStyle) (name : String) :
    FailsOnlyWith SqlError.IsNaming (style.ensureWrapped name) := by
  rw [ensureWrapped]
  split
  · exact .ok _
  · exact style.wrap_failsOnlyWith _

theorem isEnclosed_written (style : QueryStyle) (name : String) :
    style.quotes.IsEnclosed (style.written name) := by
  rw [written]
  split
  · next hq =>
    simp only [Quotes.looksQuoted, Bool.and_eq_true, beq_iff_eq] at hq
    exact ⟨hq.1.2, hq.2⟩
  · rw [Quotes.quote]
    exact ⟨rfl, List.getLast?_concat⟩

/-- A name that is quoted here is well formed, and a name that is taken over has to be. -/
theorem isNameSequence_written {gaps : Bool} {name : String}
    (h : style.quotes.looksQuoted (trim name.toList) = true →
      style.quotes.IsNameSequence gaps (trim name.toList)) :
    style.quotes.IsNameSequence gaps (style.written name) := by
  rw [written]
  split
  · next hq => exact h hq
  · exact .name (Quotes.isName_iff_exists_quote.mpr ⟨_, rfl⟩)

/-! ## Parts -/

/-- The database, if it is part of a name. -/
def givenDatabase (database : String) : List String :=
  if isBlankText database then [] else [database]

/-- The simple names that a table name is made of, in order. -/
def tableParts (style : QueryStyle) (database : String) (schema : Option String)
    (table : String) : List String :=
  match style.qualification with
  | .schemaSlot => givenDatabase database ++ (givenSchema? schema).toList ++ [table]
  | .defaultSchema fallback =>
    givenDatabase database ++ [(givenSchema? schema).getD fallback, table]
  | .databaseOnly => givenDatabase database ++ [table]
  | .tableOnly => [table]
  | .databaseAlways => [database, table]

/-- What stands between the parts. -/
def partSeparator (style : QueryStyle) (database : String) (schema : Option String) : Chars :=
  match style.qualification with
  | .schemaSlot =>
    if isBlankText database = false ∧ givenSchema? schema = none then ['.', '.'] else ['.']
  | .databaseAlways => style.separator.toList
  | _ => ['.']

theorem tableParts_ne_nil (database : String) (schema : Option String) (table : String) :
    style.tableParts database schema table ≠ [] := by
  rw [tableParts]
  split <;> simp

theorem written_ne_nil (name : String) : style.written name ≠ [] := by
  intro h
  have := (isEnclosed_written style name).1
  rw [h] at this
  contradiction

/-! ## The name and its parts

The parts are not written in the order in which they stand: the table often comes before the
database.  So where several of them are at fault, it is left open which one is named.
-/

/-- A text that consists of the parts, all of which can be written, or what is wrong with one of
them. -/
inductive Spells (style : QueryStyle) (parts : List String) (spelling : Chars) :
    Except SqlError String → Prop
  | ok {text : String} (htext : text.toList = spelling)
      (hparts : ∀ part ∈ parts, ∃ written, style.ensureWrapped part = .ok written) :
      Spells style parts spelling (.ok text)
  | error {e : SqlError} {part : String} (hpart : part ∈ parts)
      (he : style.ensureWrapped part = .error e) : Spells style parts spelling (.error e)

namespace Spells

variable {parts parts' : List String} {part : String} {spelling : Chars}

/-- The parts may be written in any order. -/
theorem congr (parts : List String) {x : Except SqlError String}
    (hmem : ∀ part, part ∈ parts ↔ part ∈ parts') (h : style.Spells parts spelling x) :
    style.Spells parts' spelling x := by
  cases h with
  | ok htext hparts => exact .ok htext fun part hpart => hparts part ((hmem part).mpr hpart)
  | error hpart he => exact .error ((hmem _).mp hpart) he

theorem pure {text : String} (h : text.toList = spelling) :
    style.Spells [] spelling (Pure.pure text) :=
  .ok h (by simp)

/-- One part is written, and then the others. -/
theorem bind {rest : String → Except SqlError String}
    (h : ∀ written, written.toList = style.written part →
      style.Spells parts spelling (rest written)) :
    style.Spells (part :: parts) spelling (style.ensureWrapped part >>= rest) := by
  cases hpart : style.ensureWrapped part with
  | error e => exact .error List.mem_cons_self hpart
  | ok written =>
    change style.Spells (part :: parts) spelling (rest written)
    have hrest := h written (ensureWrapped_eq_ok hpart)
    generalize rest written = x at hrest ⊢
    cases hrest with
    | ok htext hparts => exact .ok htext (List.forall_mem_cons.mpr ⟨⟨written, hpart⟩, hparts⟩)
    | error hother he => exact .error (List.mem_cons_of_mem part hother) he

theorem last (h : style.written part = spelling) :
    style.Spells [part] spelling (style.ensureWrapped part) := by
  rw [← bind_pure (style.ensureWrapped part)]
  exact .bind fun written hwritten => .pure (hwritten.trans h)

/-- A blank database is left out; any other one is written in front of the rest. -/
theorem withDatabase {database alone : String} {behind : String → String}
    (halone : isBlankText database = true → alone.toList = spelling)
    (hbehind : isBlankText database = false → ∀ written,
      written.toList = style.written database → (behind written).toList = spelling) :
    style.Spells (givenDatabase database) spelling
      (if isBlankText database then Pure.pure alone
      else do
        let written ← style.ensureWrapped database
        Pure.pure (behind written)) := by
  rw [givenDatabase]
  cases hblank : isBlankText database with
  | true => exact .pure (halone hblank)
  | false => exact .bind fun written hwritten => .pure (hbehind hblank written hwritten)

theorem failsOnlyWith {x : Except SqlError String} (h : style.Spells parts spelling x) :
    FailsOnlyWith SqlError.IsNaming x := by
  cases h with
  | ok => exact .ok _
  | error _ he => exact .error (style.ensureWrapped_failsOnlyWith _ _ he)

theorem exists_eq_ok {x : Except SqlError String} (h : style.Spells parts spelling x)
    (hparts : ∀ part ∈ parts, ∃ written, style.ensureWrapped part = .ok written) :
    ∃ text, x = .ok text := by
  cases h with
  | ok => exact ⟨_, rfl⟩
  | error hpart he =>
    obtain ⟨written, hwritten⟩ := hparts _ hpart
    cases he.symm.trans hwritten

end Spells

/-- Qualifying a table writes `tableParts`, with `partSeparator` between them. -/
theorem qualifyTable_spells (style : QueryStyle) (database : String) (schema : Option String)
    (table : String) :
    style.Spells (style.tableParts database schema table)
      ((style.partSeparator database schema).intercalate
        ((style.tableParts database schema table).map style.written))
      (style.qualifyTable database schema table) := by
  rw [qualifyTable, partSeparator, tableParts]
  cases hq : style.qualification with
  | schemaSlot =>
    cases hschema : givenSchema? schema with
    | none =>
      refine .congr (table :: givenDatabase database) (by simp [or_comm]) ?_
      refine .bind fun t ht => .withDatabase (fun hdb => ?_) fun hdb d hd => ?_
      · simp [givenDatabase, hdb, ht]
      · simp [givenDatabase, hdb, hd, ht]
    | some name =>
      refine .congr (table :: name :: givenDatabase database) (by simp [or_comm, or_assoc]) ?_
      refine .bind fun t ht => .bind fun s hs => .withDatabase (fun hdb => ?_) fun hdb d hd => ?_
      · -- a schema that is given is never written as nothing
        have hne : s.isEmpty = false := by
          rw [Bool.eq_false_iff, ne_eq, String.isEmpty_iff, ← String.toList_eq_nil_iff, hs]
          exact written_ne_nil name
        simp [givenDatabase, hdb, hne, hs, ht]
      · simp [givenDatabase, hdb, hd, hs, ht]
  | defaultSchema fallback =>
    refine .congr ((givenSchema? schema).getD fallback :: table :: givenDatabase database)
      (by simp [or_left_comm, or_comm (b := _ ∈ givenDatabase _)]) ?_
    refine .bind fun s hs => .bind fun t ht => .withDatabase (fun hdb => ?_) fun hdb d hd => ?_
    · simp [givenDatabase, hdb, hs, ht]
    · simp [givenDatabase, hdb, hd, hs, ht]
  | databaseOnly =>
    refine .congr (table :: givenDatabase database) (by simp [or_comm]) ?_
    refine .bind fun t ht => .withDatabase (fun hdb => ?_) fun hdb d hd => ?_
    · simp [givenDatabase, hdb, ht]
    · simp [givenDatabase, hdb, hd, ht]
  | tableOnly => exact .last (by simp)
  | databaseAlways => exact .bind fun d hd => .bind fun t ht => .pure (by simp [hd, ht])

/-- **A qualified name is its parts**, as they are written, with separators between them. -/
theorem qualifyTable_eq_ok {database table text : String} {schema : Option String}
    (h : style.qualifyTable database schema table = .ok text) :
    text.toList = (style.partSeparator database schema).intercalate
      ((style.tableParts database schema table).map style.written) := by
  have hspells := style.qualifyTable_spells database schema table
  rw [h] at hspells
  cases hspells with
  | ok htext _ => exact htext

/-- A qualified name that cannot be written has a part that cannot. -/
theorem qualifyTable_failsOnlyWith (style : QueryStyle) (database : String)
    (schema : Option String) (table : String) :
    FailsOnlyWith SqlError.IsNaming (style.qualifyTable database schema table) :=
  (style.qualifyTable_spells database schema table).failsOnlyWith

/-- A table can be qualified if all parts of its name can be written. -/
theorem exists_qualifyTable {database table : String} {schema : Option String}
    (h : ∀ part ∈ style.tableParts database schema table,
      ∃ text, style.ensureWrapped part = .ok text) :
    ∃ text, style.qualifyTable database schema table = .ok text :=
  (style.qualifyTable_spells database schema table).exists_eq_ok h

end QueryStyle

/-! ## Dialects -/

/-- Whether a qualified name may leave a part out between two points. -/
def Dialect.leavesGaps : Dialect → Bool
  | mssql => true
  | mysql | postgres | oracle | sqlite => false

theorem sparesPoints_quotes (dialect : Dialect) : dialect.style.quotes.SparesPoints := by
  cases dialect <;> decide

theorem isSeparator_partSeparator (dialect : Dialect) (database : String)
    (schema : Option String) :
    Quotes.IsSeparator dialect.leavesGaps (dialect.style.partSeparator database schema) := by
  cases dialect with
  | mssql =>
    rw [QueryStyle.partSeparator]
    simp only [Dialect.style]
    split
    · exact .inr ⟨rfl, rfl⟩
    · exact .inl rfl
  | _ => exact .inl rfl

/-- **When a qualified table name is a sequence of quoted names**: just when its parts fit together.
They do if those that look quoted, and are taken over for that, are sequences of quoted names; all
other names may be whatever they are. -/
theorem qualifyTable_isNameSequence_iff {dialect : Dialect} {database table text : String}
    {schema : Option String}
    (h : dialect.style.qualifyTable database schema table = .ok text) :
    (dialect.style.quotes.IsNameSequence dialect.leavesGaps text.toList ↔
      dialect.style.quotes.PartsFit dialect.leavesGaps
        ((dialect.style.tableParts database schema table).map dialect.style.written)) ∧
    ((∀ name ∈ dialect.style.tableParts database schema table,
        dialect.style.quotes.looksQuoted (trim name.toList) = true →
        dialect.style.quotes.IsNameSequence dialect.leavesGaps (trim name.toList)) →
      dialect.style.quotes.IsNameSequence dialect.leavesGaps text.toList) := by
  have hne : (dialect.style.tableParts database schema table).map dialect.style.written ≠ [] := by
    rw [ne_eq, List.map_eq_nil_iff]
    exact QueryStyle.tableParts_ne_nil database schema table
  have hiff : dialect.style.quotes.IsNameSequence dialect.leavesGaps text.toList ↔
      dialect.style.quotes.PartsFit dialect.leavesGaps
        ((dialect.style.tableParts database schema table).map dialect.style.written) := by
    rw [QueryStyle.qualifyTable_eq_ok h]
    refine Quotes.isNameSequence_intercalate_iff (sparesPoints_quotes dialect)
      (isSeparator_partSeparator dialect database schema) hne ?_
    rw [List.forall_mem_map]
    exact fun name _ => QueryStyle.isEnclosed_written dialect.style name
  refine ⟨hiff, fun hquoted => hiff.mpr (Quotes.partsFit_of_forall hne ?_)⟩
  rw [List.forall_mem_map]
  exact fun name hname => QueryStyle.isNameSequence_written (hquoted name hname)

/-- The marks of a name that does not look quoted are doubled. -/
theorem qualifyTable_bracketed_word :
    Dialect.mssql.style.qualifyTable "shop" none "a]b" = .ok "[shop]..[a]]b]" ∧
    Dialect.mssql.style.quotes.IsNameSequence true "[shop]..[a]]b]".toList := by
  have h : Dialect.mssql.style.qualifyTable "shop" none "a]b" = .ok "[shop]..[a]]b]" := by
    rfl
  have hplain : ∀ name ∈ Dialect.mssql.style.tableParts "shop" none "a]b",
      Dialect.mssql.style.quotes.looksQuoted (trim name.toList) = false := by decide
  refine ⟨h, (qualifyTable_isNameSequence_iff h).2 fun name hname hquoted => ?_⟩
  rw [hplain name hname] at hquoted
  contradiction

/-- A valid table name that begins and ends with brackets puts a statement of its own into the
qualified name. -/
theorem qualifyTable_statement_inside :
    Dialect.mssql.style.checkObjectName .table "[a]; DROP TABLE b; --]" = .ok () ∧
    Dialect.mssql.style.qualifyTable "shop" none "[a]; DROP TABLE b; --]" =
      .ok "[shop]..[a]; DROP TABLE b; --]" ∧
    ¬Dialect.mssql.style.quotes.IsNameSequence true "[shop]..[a]; DROP TABLE b; --]".toList := by
  refine ⟨rfl, rfl, ?_⟩
  rw [Quotes.isNameSequence_iff (by decide)]
  decide

end SqlDialects
