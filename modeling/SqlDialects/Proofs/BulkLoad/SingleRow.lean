import SqlDialects.Proofs.BulkLoad.Carrying
import SqlDialects.Proofs.ColumnMapping.PlainNames
import SqlDialects.Proofs.List
import SqlDialects.Proofs.Schema.RowInsertion

/-!
# A single row and a dataset

A row may be inserted by itself or be loaded with a dataset, and either way its values find their
columns by name.  The two ways look names up differently: a dataset is mapped by resolving each
name, while a single row takes the first column that is like a name.

* **`BulkSession.BindsAsMapped`** — the values of a row are bound in the columns that the mapping of
  their names leads to, and are not bound if there is no mapping.
* **`insert_as_mapped_iff`** — it is so exactly if the names are plain and different, as far as they
  can be bound at all.  Columns that differ only by case, and names given twice, are what a single
  row does not heed.
-/

set_option autoImplicit false

namespace SqlDialects

open Text

/-! ## Lists of columns -/

theorem firstLike_eq_firstMatch (columns : List Column) (name : String) :
    Table.firstLike columns name =
      (firstMatch (columns.map Column.name) name).bind fun i => columns[i]? := by
  rw [Table.firstLike, firstMatch, List.findIdx?_map]
  exact List.find?_eq_bind_findIdx?_getElem?

namespace BulkSession

variable {s : BulkSession} {m : ColumnMapping} {names : List String}

/-! ## Columns of a single row -/

/-- Where a mapping leads there are columns. -/
theorem map_some_destinations (h : s.map names = .ok m) :
    (s.destinations m).map some = m.places.map fun i => s.knownColumns[i]? := by
  have hplaces : s.destinations m = m.places.filterMap fun i => s.knownColumns[i]? := by
    rw [destinations, ColumnMapping.places, List.filterMap_map]
    rfl
  rw [hplaces]
  refine map_some_filterMap fun i hi => ?_
  obtain ⟨pair, hpair, rfl⟩ := List.mem_map.mp hi
  obtain ⟨_, name, -, hname, -⟩ := (mapColumns_matches h).sameNames pair hpair
  rw [List.getElem?_map] at hname
  obtain ⟨column, hcolumn, -⟩ := Option.map_eq_some_iff.mp hname
  exact ⟨column, hcolumn⟩

theorem map_of_strict (hstrict : s.settings.allowUnmatched = false) (names : List String) :
    s.map names = mapColumns names (s.knownColumns.map Column.name) s.table.name false := by
  rw [map, hstrict]

/-- A strict mapping leads every name to a column. -/
theorem length_destinations_of_strict (hstrict : s.settings.allowUnmatched = false)
    (h : s.map names = .ok m) : (s.destinations m).length = names.length := by
  have hplaces : m.places.length = names.length := by
    rw [map_of_strict hstrict] at h
    simpa using (congrArg List.length (mapColumns_strict_iff.mp ⟨m, h, rfl⟩).1).symm
  simpa [hplaces] using congrArg List.length (map_some_destinations h)

/-- **The values of a row go where the mapping of their names leads.**  If there is a mapping, what
is bound is bound in its columns; if there is none, nothing is. -/
def BindsAsMapped (s : BulkSession) (reader : DateReader) (values : List (String × SqlValue)) :
    Prop :=
  match s.map (values.map Prod.fst) with
  | .ok m => ∀ bound, s.table.bindValues s.knownColumns reader values = .ok bound →
      Table.bindColumns reader (s.destinations m) (values.map Prod.snd) = .ok bound
  | .error _ => ∃ e, s.table.bindValues s.knownColumns reader values = .error e

/-- The first columns that are like the names stand at the first matches. -/
theorem exists_firstMatches {chosen : List Column}
    (h : names.map (Table.firstLike s.knownColumns) = chosen.map some) :
    ∃ places : List Nat, names.map (firstMatch (s.knownColumns.map Column.name)) = places.map some ∧
      (places.map fun i => s.knownColumns[i]?) = chosen.map some := by
  have hmatch : ∀ name ∈ names, ∃ i, firstMatch (s.knownColumns.map Column.name) name = some i := by
    intro name hname
    obtain ⟨column, -, hcolumn⟩ := List.mem_map.mp (h ▸ List.mem_map_of_mem hname)
    rw [firstLike_eq_firstMatch] at hcolumn
    obtain ⟨i, hi, -⟩ := Option.bind_eq_some_iff.mp hcolumn.symm
    exact ⟨i, hi⟩
  have hplaces := (map_some_filterMap hmatch).symm
  refine ⟨_, hplaces, ?_⟩
  rw [← h, ← map_bind_firstMatch hplaces]
  exact List.map_congr_left fun name _ => (firstLike_eq_firstMatch _ name).symm

/-- Columns that stand at places have the names that stand there. -/
theorem map_names_of_places {places : List Nat} {columns chosen : List Column}
    (h : (places.map fun i => columns[i]?) = chosen.map some) :
    (places.map fun i => (columns.map Column.name)[i]?) = (chosen.map Column.name).map some := by
  have hnames := congrArg (List.map (Option.map Column.name)) h
  simp only [List.map_map] at hnames ⊢
  simpa [Function.comp_def] using hnames

/-- What can be bound at all is bound as mapped if and only if the names are plain. -/
theorem bindsAsMapped_iff_of_ok (hstrict : s.settings.allowUnmatched = false)
    {reader : DateReader} {values : List (String × SqlValue)}
    {bound : List (String × String × SqlValue)}
    (h : s.table.bindValues s.knownColumns reader values = .ok bound) :
    s.BindsAsMapped reader values ↔
      NamedPlainly (s.knownColumns.map Column.name) (values.map Prod.fst) := by
  obtain ⟨chosen, hchosen, hbound⟩ := Table.bindValues_eq_ok_iff.mp h
  rw [← Function.comp_def, ← List.map_map] at hchosen
  obtain ⟨places, hplaces, hcolumns⟩ := exists_firstMatches hchosen
  constructor
  · intro hagrees
    rw [BindsAsMapped] at hagrees
    split at hagrees
    · next m hm =>
      refine namedPlainly_of_mapColumns hplaces (map_of_strict hstrict _ ▸ hm) ?_
      -- what is bound in either list of columns tells their names
      have hdestinations : (s.destinations m).length = (values.map Prod.snd).length := by
        rw [length_destinations_of_strict hstrict hm, List.length_map, List.length_map]
      have hchosen : chosen.length = (values.map Prod.snd).length := by
        simpa using (congrArg List.length hchosen).symm
      rw [map_names_of_places (map_some_destinations hm).symm, map_names_of_places hcolumns,
        ← Table.names_of_bindColumns hdestinations (hagrees bound h),
        ← Table.names_of_bindColumns hchosen hbound]
    · obtain ⟨e, he⟩ := hagrees
      rw [h] at he
      contradiction
  · intro hplain
    obtain ⟨m, hm, rfl⟩ := mapColumns_of_namedPlainly hplaces hplain s.table.name
    rw [← map_of_strict hstrict] at hm
    rw [BindsAsMapped, hm]
    intro bound' hbound'
    obtain rfl := Except.ok.inj (h.symm.trans hbound')
    have hdestinations : s.destinations m = chosen :=
      List.map_injective_iff.mpr (fun _ _ => Option.some.inj)
        ((map_some_destinations hm).trans hcolumns)
    rwa [hdestinations]

/-- **Single rows and datasets write to the same columns**, exactly if the names are plain.  The
values of a row are bound as the mapping of their names leads, unless they can be bound at all and
some name is not plain or given twice. -/
theorem insert_as_mapped_iff (s : BulkSession) (hstrict : s.settings.allowUnmatched = false)
    (values : List (String × SqlValue)) (culture : Culture) (transaction : Option Transaction) :
    (s.table.insert values culture transaction).run.Ensures (s.table.InsertsRow values culture) ∧
    (s.BindsAsMapped (.ofCulture culture) values ↔
      ((∀ value ∈ values, ∃ column quoted,
          Table.firstLike s.knownColumns value.1 = some column ∧
            column.wrappedName = .ok quoted) →
        NamedPlainly (s.knownColumns.map Column.name) (values.map Prod.fst))) := by
  refine ⟨s.table.insert_ensures values culture transaction, ?_⟩
  have hbinds : (∃ bound, s.table.bindValues s.knownColumns (.ofCulture culture) values =
      .ok bound) ↔ _ := Table.exists_bindValues_iff
  cases hbound : s.table.bindValues s.knownColumns (.ofCulture culture) values with
  | ok bound =>
    rw [bindsAsMapped_iff_of_ok hstrict hbound]
    exact ⟨fun hplain _ => hplain, fun h => h (hbinds.mp ⟨bound, hbound⟩)⟩
  | error e =>
    -- what is not bound goes nowhere
    have hunbound : ¬∀ value ∈ values, ∃ column quoted,
        Table.firstLike s.knownColumns value.1 = some column ∧
          column.wrappedName = .ok quoted := by
      rw [← hbinds, hbound]
      rintro ⟨bound, hok⟩
      contradiction
    refine ⟨fun _ hall => absurd hall hunbound, fun _ => ?_⟩
    rw [BindsAsMapped]
    split
    · intro bound hok
      rw [hbound] at hok
      contradiction
    · exact ⟨e, hbound⟩

/-- A table of people, with two columns that differ only by case. -/
def people : Table := ⟨⟨⟨.mssql, none, fun _ => false, default⟩, "shop"⟩, "people", none, .table⟩

/-- The columns of the table. -/
def peopleColumns : List ColumnInfo :=
  [{ name := "id", sqlType := "int", nullable := false },
    { name := "name", sqlType := "varchar(10)", nullable := true },
    { name := "Name", sqlType := "varchar(10)", nullable := true }]

/-- A session on the table, of which the columns are known. -/
def peopleSession : BulkSession where
  table := people
  connection := ⟨1, some "shop"⟩
  ownsConnection := true
  settings := {}
  columns := some (peopleColumns.map (Column.ofInfo people))

/-- An engine with that table. -/
def peopleScript : Script where
  tables := [{ info := ⟨"people", none, .table⟩, columns := peopleColumns }]

/-- The columns in which the values of a row are bound, if they can be bound. -/
def boundColumns (s : BulkSession) (values : List (String × SqlValue)) : Option (List String) :=
  (s.table.bindValues s.knownColumns (.ofCulture .enUS) values).toOption.map fun bound =>
    bound.map fun entry => entry.1

/-- A name in other letters and one that is spelled exactly like the first of two columns. -/
theorem insert_as_mapped_people :
    peopleSession.settings.allowUnmatched = false ∧
    peopleSession.boundColumns [("ID", .int32 7), ("name", .text "Ada")] = some ["id", "name"] ∧
    peopleSession.BindsAsMapped (.ofCulture .enUS) [("ID", .int32 7), ("name", .text "Ada")] := by
  have hplain : NamedPlainly (peopleSession.knownColumns.map Column.name)
      (([("ID", .int32 7), ("name", .text "Ada")] : List (String × SqlValue)).map Prod.fst) :=
    ⟨by decide +kernel, by decide +kernel⟩
  exact ⟨rfl, by decide +kernel,
    (peopleSession.insert_as_mapped_iff rfl _ .enUS none).2.mpr fun _ => hplain⟩

/-- A name that is spelled like the second of two columns is mapped there, but inserted into the
first; a name that is like both but is spelled like neither, and one given twice, cannot be mapped,
but are inserted. -/
theorem insert_into_first_of_two :
    (peopleSession.map ["Name"]).toOption.map
        (fun m => (peopleSession.destinations m).map Column.name) = some ["Name"] ∧
    (givenCommands ((people.insert [("Name", .text "Ada")] .enUS none).run.run Script.engine
        peopleScript).2.1).map Command.text =
      ["INSERT INTO [shop]..[people]([name]) VALUES (@name)"] ∧
    (∀ names ∈ [["NAME"], ["id", "ID"]], (peopleSession.map names).toOption = none) ∧
    peopleSession.boundColumns [("NAME", .text "Ada")] = some ["name"] ∧
    peopleSession.boundColumns [("id", .int32 7), ("ID", .int32 8)] = some ["id", "id"] := by
  decide +kernel

end BulkSession

end SqlDialects
