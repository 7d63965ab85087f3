import SqlDialects.Proofs.Engine.Ensures
import SqlDialects.Proofs.Except
import SqlDialects.Schema.Table

/-!
# Inserting a single row

A row is inserted by one command, which is put together for the columns that the catalog describes:
each value goes to the first column that is like its name.

* **`Table.InsertsRow`** — either the insertion fails and no command is given, or one command is
  given, and it is that of the row.  It is so in every run (`Table.insert_ensures`).
* **`Table.bindColumns`** — what is bound when values go to given columns.  The values of a row are
  bound in the first columns that are like their names (`Table.bindValues_eq_ok_iff`), and nothing
  but names of columns keeps them from it (`Table.exists_bindValues_iff`).
-/

set_option autoImplicit false

namespace SqlDialects

open Text

/-! ## Described columns -/

/-- The entries of the catalog that an exchange tells of. -/
def described? : Exchange → Option (List ColumnInfo)
  | ⟨.describeColumns _ _, Except.ok infos⟩ => some infos
  | _ => none

/-- The entries of the catalog that have been told of, each time that columns were described. -/
def describedColumns (trace : List Exchange) : List (List ColumnInfo) :=
  trace.filterMap described?

theorem describedColumns_append (first second : List Exchange) :
    describedColumns (first ++ second) = describedColumns first ++ describedColumns second :=
  List.filterMap_append

/-- A trace that describes no columns and gives no command. -/
def IsAside (trace : List Exchange) : Prop :=
  givenCommands trace = [] ∧ describedColumns trace = []

/-! ## Binding -/

namespace Table

/-- What is bound for values that go to given columns: the names of the columns, those names between
quotes, and the values as they are bound. -/
def bindColumns (reader : DateReader) (columns : List Column) (values : List SqlValue) :
    Except SqlError (List (String × String × SqlValue)) :=
  (columns.zip values).mapM fun (column, value) =>
    column.wrappedName.map fun quoted => (column.name, quoted, boundValue reader column value)

variable {t : Table} {columns : List Column} {reader : DateReader}
  {values : List (String × SqlValue)}

/-- The first column that is like a name. -/
def firstLike (columns : List Column) (name : String) : Option Column :=
  columns.find? fun column => sameName column.name name

theorem bindValues_cons {name : String} {value : SqlValue}
    {bound : List (String × String × SqlValue)} :
    t.bindValues columns reader ((name, value) :: values) = .ok bound ↔
      ∃ column quoted rest, firstLike columns name = some column ∧
        column.wrappedName = .ok quoted ∧ t.bindValues columns reader values = .ok rest ∧
        (column.name, quoted, boundValue reader column value) :: rest = bound := by
  rw [bindValues, firstLike]
  cases columns.find? fun column => sameName column.name name with
  | none => simp [throw, throwThe, MonadExceptOf.throw]
  | some column => simp [bind_eq_ok_iff, pure, Except.pure]

theorem bindColumns_cons {column : Column} {value : SqlValue} {chosen : List Column}
    {values : List SqlValue} {bound : List (String × String × SqlValue)} :
    bindColumns reader (column :: chosen) (value :: values) = .ok bound ↔
      ∃ quoted rest, column.wrappedName = .ok quoted ∧
        bindColumns reader chosen values = .ok rest ∧
        (column.name, quoted, boundValue reader column value) :: rest = bound := by
  rw [bindColumns, List.zip_cons_cons, List.mapM_cons, ← bindColumns]
  cases hquoted : column.wrappedName <;>
    simp [bind_eq_ok_iff, hquoted, Except.map, pure, Except.pure]

/-- What is bound has the names of the columns. -/
theorem names_of_bindColumns {chosen : List Column} {values : List SqlValue}
    {bound : List (String × String × SqlValue)} (hlength : chosen.length = values.length)
    (h : bindColumns reader chosen values = .ok bound) :
    (bound.map fun entry => entry.1) = chosen.map Column.name := by
  induction chosen generalizing values bound with
  | nil =>
    obtain rfl := Except.ok.inj h
    rfl
  | cons column chosen ih =>
    cases values with
    | nil => contradiction
    | cons value values =>
      obtain ⟨quoted, rest, -, hrest, rfl⟩ := bindColumns_cons.mp h
      rw [List.map_cons, List.map_cons, ih (Nat.succ.inj hlength) hrest]

/-- **The values of a row are bound in the first columns** that are like their names. -/
theorem bindValues_eq_ok_iff {bound : List (String × String × SqlValue)} :
    t.bindValues columns reader values = .ok bound ↔
      ∃ chosen : List Column, values.map (fun value => firstLike columns value.1) =
          chosen.map some ∧
        bindColumns reader chosen (values.map Prod.snd) = .ok bound := by
  induction values generalizing bound with
  | nil =>
    constructor
    · exact fun h => ⟨[], rfl, h⟩
    · rintro ⟨chosen, hchosen, h⟩
      obtain rfl := List.map_eq_nil_iff.mp hchosen.symm
      exact h
  | cons entry values ih =>
    obtain ⟨name, value⟩ := entry
    rw [bindValues_cons]
    constructor
    · rintro ⟨column, quoted, rest, hfirst, hquoted, hrest, rfl⟩
      obtain ⟨chosen, hchosen, hbound⟩ := ih.mp hrest
      refine ⟨column :: chosen, ?_, bindColumns_cons.mpr ⟨quoted, rest, hquoted, hbound, rfl⟩⟩
      rw [List.map_cons, List.map_cons, hfirst, hchosen]
    · rintro ⟨_, hchosen, hbound⟩
      obtain ⟨column, chosen, rfl, hfirst, hothers⟩ := List.map_eq_cons_iff.mp hchosen.symm
      obtain ⟨quoted, rest, hquoted, hrest, rfl⟩ := bindColumns_cons.mp hbound
      exact ⟨column, quoted, rest, hfirst.symm, hquoted, ih.mpr ⟨chosen, hothers.symm, hrest⟩, rfl⟩

/-- Names that stand for columns whose names can be written are all that is needed. -/
theorem exists_bindValues_iff :
    (∃ bound, t.bindValues columns reader values = .ok bound) ↔
      ∀ value ∈ values, ∃ column quoted, firstLike columns value.1 = some column ∧
        column.wrappedName = .ok quoted := by
  induction values with
  | nil => exact ⟨fun _ => List.forall_mem_nil _, fun _ => ⟨[], rfl⟩⟩
  | cons entry values ih =>
    obtain ⟨name, value⟩ := entry
    rw [List.forall_mem_cons, ← ih]
    simp only [bindValues_cons]
    constructor
    · rintro ⟨bound, column, quoted, rest, hfirst, hquoted, hrest, -⟩
      exact ⟨⟨column, quoted, hfirst, hquoted⟩, rest, hrest⟩
    · rintro ⟨⟨column, quoted, hfirst, hquoted⟩, rest, hrest⟩
      exact ⟨_, column, quoted, rest, hfirst, hquoted, hrest, rfl⟩

/-! ## The command -/

/-- The command that inserts a row. -/
def rowCommand (t : Table) (table : String) (bound : List (String × String × SqlValue)) :
    Command :=
  let parameters := t.dialect.style.parametersFor (bound.map fun entry => entry.1)
  { text := Dialect.insertRow table (bound.map fun entry => entry.2.1) parameters
    parameters := parameters.zip (bound.map fun entry => entry.2.2) }

/-- **A row is inserted** by one command, which binds its values in the columns that the catalog has
been found to describe; or the insertion fails and no command is given. -/
def InsertsRow (t : Table) (values : List (String × SqlValue)) (culture : Culture)
    (outcome : Except SqlError Int) (trace : List Exchange) : Prop :=
  ((∃ e, outcome = .error e) ∧ givenCommands trace = []) ∨
    ∃ infos table bound, describedColumns trace = [infos] ∧ t.qualifiedName = .ok table ∧
      t.bindValues (infos.map (Column.ofInfo t)) (.ofCulture culture) values = .ok bound ∧
      givenCommands trace = [t.rowCommand table bound]

/-- What is done before and after the insertion is of no account. -/
theorem InsertsRow.around {culture : Culture} {outcome : Except SqlError Int}
    {trace : List Exchange} (h : t.InsertsRow values culture outcome trace)
    (before after : List Exchange) (hbefore : IsAside before) (hafter : IsAside after) :
    t.InsertsRow values culture outcome (before ++ (trace ++ after)) := by
  have hcommands : givenCommands (before ++ (trace ++ after)) = givenCommands trace := by
    rw [givenCommands_append, givenCommands_append, hbefore.1, hafter.1, List.nil_append,
      List.append_nil]
  have hdescribed : describedColumns (before ++ (trace ++ after)) = describedColumns trace := by
    rw [describedColumns_append, describedColumns_append, hbefore.2, hafter.2, List.nil_append,
      List.append_nil]
  rwa [InsertsRow, hcommands, hdescribed]

/-- **Every insertion of a row** goes so. -/
theorem insert_ensures (t : Table) (values : List (String × SqlValue)) (culture : Culture)
    (transaction : Option Transaction) :
    (t.insert values culture transaction).run.Ensures (t.InsertsRow values culture) := by
  have hfails : ∀ {e : SqlError} {trace : List Exchange}, givenCommands trace = [] →
      t.InsertsRow values culture (.error e) trace := fun hnone => .inl ⟨⟨_, rfl⟩, hnone⟩
  refine .settled_bind (fun table htable => ?_) fun e _ => hfails rfl
  refine withConnection_ensures_around (fun e => hfails rfl)
    (fun c outcome trace h => h.around [_] [_] ⟨rfl, rfl⟩ ⟨rfl, rfl⟩) fun c => ?_
  refine .ask fun described => ?_
  cases described with
  | error e => exact .done (hfails rfl)
  | ok infos =>
    refine .settled_bind (fun bound hbound => ?_) fun e _ => hfails rfl
    refine .ask fun executed => ?_
    cases executed with
    | error e => exact .done (.inr ⟨infos, table, bound, rfl, htable, hbound, rfl⟩)
    | ok count =>
      -- the engine is only asked for the value that it has counted up
      refine .mono (?_ : Program.Ensures _ fun _ rest => IsAside rest) fun outcome rest haside =>
        .inr ⟨infos, table, bound, ?_, htable, hbound, ?_⟩
      · dsimp only
        split
        · exact .done ⟨rfl, rfl⟩
        · next identity _ =>
          refine .settled_bind (fun quoted _ => ?_) fun e _ => ⟨rfl, rfl⟩
          split
          · exact .done ⟨rfl, rfl⟩
          · refine .ask fun answer => ?_
            cases answer <;> exact .done ⟨rfl, rfl⟩
      · exact congrArg (List.cons infos) haside.2
      · exact congrArg (List.cons (t.rowCommand table bound)) haside.1

end Table

end SqlDialects
