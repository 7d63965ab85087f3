import SqlDialects.Engine.Script
import SqlDialects.Proofs.Engine.Ensures
import SqlDialects.Proofs.Except
import SqlDialects.Schema.Column

/-!
# Alterations and what is remembered of them

A column remembers the name of its type.  The table has a type too, the one that the last statement
executed has given it, and an alteration should leave the two alike however it ends.

* **`ColumnType.Execution`** — statements are executed in order up to the first that fails.
* **`ColumnType.HasTypeAfter`** — the type that the table has after a trace.  It is one type only,
  since a statement gives one type (`givingStatement_inj`).
* **`ColumnType.alterTo_agrees`** — what is remembered is the type that the table has, unless the
  alteration is interrupted.

An alteration of one statement cannot be interrupted, for if the statement fails nothing has been
executed.  Truth values of MySQL take two, by way of text.  Then the first may be in force when the
second fails, and the memory, which changes only if all statements succeed, is behind the table.
-/

set_option autoImplicit false

namespace SqlDialects

open Text

namespace ColumnType

/-! ## Running the statements -/

/-- What comes of statements that are executed in order: the outcome, and those that have been
executed. -/
inductive Execution (statements : List String) : Except SqlError Unit → List String → Prop
  | finished : Execution statements (.ok ()) statements
  /-- The first failure ends it. -/
  | stopped {executed : List String} (e : SqlError) (h : executed <+: statements)
    (hne : executed ≠ statements) : Execution statements (.error e) executed

theorem Execution.cons {statements executed : List String} {outcome : Except SqlError Unit}
    (sql : String) (h : Execution statements outcome executed) :
    Execution (sql :: statements) outcome (sql :: executed) := by
  cases h with
  | finished => exact .finished
  | stopped e h hne =>
    exact .stopped e (List.cons_prefix_cons.mpr ⟨rfl, h⟩) (by simpa using hne)

theorem Execution.notStarted {statements : List String} (e : SqlError) (hne : statements ≠ []) :
    Execution statements (.error e) [] :=
  .stopped e List.nil_prefix hne.symm

/-- Running statements, as a tree. -/
theorem run_runAlterations_cons (c : Connection) (sql : String) (rest : List String) :
    (runAlterations c (sql :: rest)).run =
      .ask (.execute c { text := sql }) fun
        | Except.error e => .done (.error (.alterFailed sql e))
        | Except.ok _ => (runAlterations c rest).run := by
  refine congrArg (Program.ask _) (funext fun answer => ?_)
  cases answer <;> rfl

/-- Statements are executed up to the first that fails. -/
theorem runAlterations_ensures (c : Connection) (statements : List String) :
    (runAlterations c statements).run.Ensures fun outcome trace =>
      Execution statements outcome (executedStatements trace) := by
  induction statements with
  | nil => exact .done .finished
  | cons sql rest ih =>
    rw [run_runAlterations_cons]
    refine .ask fun answer => ?_
    cases answer with
    | error e => exact .done (.notStarted _ (List.cons_ne_nil _ _))
    | ok count => exact ih.mono fun outcome trace h => h.cons sql

/-! ## The type that the table has -/

variable {ct : ColumnType}

/-- The statement that gives the column a type. -/
def givingStatement (ct : ColumnType) (sqlType : String) : Except SqlError String := do
  let table ← ct.table.qualifiedName
  let column ← ct.dialect.style.wrap ct.column
  ct.dialect.alterStatement table column sqlType ct.nullable

/-- **The type that the table has after a trace**: the one that the last statement executed gives
the column, and the old one if none was executed. -/
def HasTypeAfter (ct : ColumnType) (trace : List Exchange) (sqlType : String) : Prop :=
  match (executedStatements trace).getLast? with
  | none => sqlType = ct.sqlType
  | some sql => ct.givingStatement sqlType = .ok sql

theorem alterWith_inj {verb table column t u : String} {nullable : Bool}
    (h : Dialect.alterWith verb table column t nullable =
      Dialect.alterWith verb table column u nullable) : t = u := by
  unfold Dialect.alterWith at h
  rw [String.append_left_inj] at h
  rw [String.append_left_inj] at h
  rwa [String.append_right_inj] at h

theorem alterStatement_inj {dialect : Dialect} {table column t u sql : String} {nullable : Bool}
    (ht : dialect.alterStatement table column t nullable = .ok sql)
    (hu : dialect.alterStatement table column u nullable = .ok sql) : t = u := by
  rw [← hu] at ht
  cases dialect with
  | mssql | mysql | oracle => exact alterWith_inj (Except.ok.inj ht)
  | postgres =>
    have hsql := Except.ok.inj ht
    rw [String.append_left_inj, String.append_left_inj, String.append_left_inj,
      String.append_left_inj] at hsql
    rwa [String.append_right_inj] at hsql
  | sqlite => contradiction

/-- A statement gives one type. -/
theorem givingStatement_inj {t u sql : String} (ht : ct.givingStatement t = .ok sql)
    (hu : ct.givingStatement u = .ok sql) : t = u := by
  obtain ⟨table, htable, ht⟩ := exists_of_bind_eq_ok ht
  obtain ⟨column, hcolumn, ht⟩ := exists_of_bind_eq_ok ht
  obtain ⟨table', htable', hu⟩ := exists_of_bind_eq_ok hu
  obtain ⟨column', hcolumn', hu⟩ := exists_of_bind_eq_ok hu
  obtain rfl := Except.ok.inj (htable.symm.trans htable')
  obtain rfl := Except.ok.inj (hcolumn.symm.trans hcolumn')
  exact alterStatement_inj ht hu

/-- The table has one type. -/
theorem hasTypeAfter_unique {trace : List Exchange} {t u : String} (ht : ct.HasTypeAfter trace t)
    (hu : ct.HasTypeAfter trace u) : t = u := by
  rw [HasTypeAfter] at ht hu
  cases hlast : (executedStatements trace).getLast? with
  | none =>
    rw [hlast] at ht hu
    exact ht.trans hu.symm
  | some sql =>
    rw [hlast] at ht hu
    exact givingStatement_inj ht hu

theorem hasTypeAfter_of_nil {trace : List Exchange} (h : executedStatements trace = []) :
    ct.HasTypeAfter trace ct.sqlType := by
  rw [HasTypeAfter, h]
  rfl

theorem hasTypeAfter_of_getLast? {trace : List Exchange} {sql t : String}
    (h : (executedStatements trace).getLast? = some sql) (ht : ct.givingStatement t = .ok sql) :
    ct.HasTypeAfter trace t := by
  rw [HasTypeAfter, h]
  exact ht

/-! ## The statements of an alteration -/

/-- Whether the column becomes text on its way to the new type: MySQL turns truth values into
nothing else directly. -/
def PassesThroughText (ct : ColumnType) (newType : String) : Prop :=
  ct.dialect = .mysql ∧ ct.dialect.kindOf ct.sqlType = some .bool ∧
    ct.dialect.kindOf newType ≠ some .bool

/-- An alteration ends with the statement that gives the new type, and at most the one that makes
the column text goes before it. -/
theorem alterations_eq_ok {newType : String} {statements : List String}
    (h : ct.alterations newType = .ok statements) :
    ∃ before last, statements = before ++ [last] ∧ ct.givingStatement newType = .ok last ∧
      (before = [] ∨ ct.PassesThroughText newType ∧
        ∃ first, ct.givingStatement "varchar(10)" = .ok first ∧ before = [first]) := by
  obtain ⟨table, htable, h⟩ := exists_of_bind_eq_ok h
  obtain ⟨column, hcolumn, h⟩ := exists_of_bind_eq_ok h
  have hgiving : (fun t => ct.dialect.alterStatement table column t ct.nullable) =
      ct.givingStatement := by
    funext t
    rw [givingStatement, htable]
    show _ = ct.dialect.style.wrap ct.column >>= _
    rw [hcolumn]
    rfl
  rw [Dialect.alterColumn, hgiving, Dialect.alterationPath] at h
  split at h
  · next hpasses =>
    rw [List.mapM_cons, List.mapM_cons, List.mapM_nil] at h
    obtain ⟨first, hfirst, h⟩ := exists_of_bind_eq_ok h
    obtain ⟨rest, hrest, h⟩ := exists_of_bind_eq_ok h
    obtain ⟨last, hlast, hrest⟩ := exists_of_bind_eq_ok hrest
    obtain rfl := Except.ok.inj hrest
    exact ⟨[first], last, (Except.ok.inj h).symm, hlast, .inr ⟨hpasses, first, hfirst, rfl⟩⟩
  · rw [List.mapM_cons, List.mapM_nil] at h
    obtain ⟨last, hlast, h⟩ := exists_of_bind_eq_ok h
    exact ⟨[], last, (Except.ok.inj h).symm, hlast, .inl rfl⟩

/-! ## Alterations -/

/-- What is remembered of an alteration is told by its outcome alone. -/
theorem alterTo_remembers (ct : ColumnType) (newType : String)
    (transaction : Option Transaction) :
    (ct.alterTo newType transaction).Ensures fun result _ =>
      (result.1 = .ok () ∧ result.2 = { ct with sqlType := newType }) ∨
        ∃ e, result = (.error e, ct) := by
  rw [alterTo]
  split
  · next e _ => exact .done (.inr ⟨e, rfl⟩)
  · next statements _ =>
    refine .andThen (.trivial _) fun outcome _ _ => ?_
    cases outcome with
    | error e => exact .done (.inr ⟨e, rfl⟩)
    | ok => exact .done (.inl ⟨rfl, rfl⟩)

/-- Whether an alteration has failed though a statement was executed. -/
def Interrupted (outcome : Except SqlError Unit) (trace : List Exchange) : Prop :=
  (∃ e, outcome = .error e) ∧ executedStatements trace ≠ []

/-- How an alteration may end: the type `after` is remembered, and the trace tells which one the
table has. -/
structure AlterationEnd (ct : ColumnType) (newType : String) (outcome : Except SqlError Unit)
    (after : ColumnType) (trace : List Exchange) : Prop where
  succeeded : outcome = .ok () → after = { ct with sqlType := newType }
  failed : ∀ e, outcome = .error e → after = ct
  /-- What is remembered is what the table has, just when the alteration was not interrupted. -/
  agrees : ct.HasTypeAfter trace after.sqlType ↔ ¬ Interrupted outcome trace
  /-- Only a column on its way through text is left with another type. -/
  leftAsText : Interrupted outcome trace →
    ct.PassesThroughText newType ∧ ct.HasTypeAfter trace "varchar(10)"

theorem alterationEnd_of_error (ct : ColumnType) (newType : String) (e : SqlError)
    {trace : List Exchange} (h : executedStatements trace = []) :
    AlterationEnd ct newType (.error e) ct trace where
  succeeded := by simp
  failed := by simp
  agrees := by simpa [Interrupted, h] using hasTypeAfter_of_nil h
  leftAsText hinterrupted := absurd h hinterrupted.2

theorem alterationEnd_of_ok {ct : ColumnType} {newType : String} {trace : List Exchange}
    (h : ct.HasTypeAfter trace newType) :
    AlterationEnd ct newType (.ok ()) { ct with sqlType := newType } trace where
  succeeded _ := rfl
  failed := by simp
  agrees := by simpa [Interrupted] using h
  leftAsText := by simp [Interrupted]

theorem varchar_ne_of_passesThroughText {newType : String} (h : ct.PassesThroughText newType) :
    ct.sqlType ≠ "varchar(10)" := by
  intro heq
  obtain ⟨hdialect, hbool, -⟩ := h
  rw [hdialect, heq] at hbool
  exact absurd hbool (by decide +kernel)

theorem alterationEnd_of_interrupted {newType first : String} (e : SqlError)
    {trace : List Exchange} (h : executedStatements trace = [first])
    (hpasses : ct.PassesThroughText newType)
    (hfirst : ct.givingStatement "varchar(10)" = .ok first) :
    AlterationEnd ct newType (.error e) ct trace := by
  have htext : ct.HasTypeAfter trace "varchar(10)" :=
    hasTypeAfter_of_getLast? (by rw [h, List.getLast?_singleton]) hfirst
  have hold : ¬ ct.HasTypeAfter trace ct.sqlType := fun hold =>
    varchar_ne_of_passesThroughText hpasses (hasTypeAfter_unique hold htext)
  exact
    { succeeded := by simp
      failed := by simp
      agrees := by simpa [Interrupted, h] using hold
      leftAsText := fun _ => ⟨hpasses, htext⟩ }

/-- **What is remembered is the type that the table has, unless the alteration was interrupted.**
An interrupted one has made the column text. -/
theorem alterTo_agrees (ct : ColumnType) (newType : String) (transaction : Option Transaction) :
    (ct.alterTo newType transaction).Ensures fun (outcome, after) trace =>
      AlterationEnd ct newType outcome after trace := by
  rw [alterTo]
  split
  · next e _ => exact .done (alterationEnd_of_error ct newType e rfl)
  next statements hstatements =>
  obtain ⟨before, last, rfl, hlast, hbefore⟩ := alterations_eq_ok hstatements
  refine .andThen (withConnection_ensures (Execution (before ++ [last]))
    (fun e => .notStarted e (List.concat_ne_nil last before))
    (fun c => runAlterations_ensures c _)) fun outcome trace h => ?_
  rw [← List.append_nil trace] at h
  generalize hexecuted : executedStatements (trace ++ []) = executed at h
  cases h with
  | finished =>
    have hnew : ct.HasTypeAfter (trace ++ []) newType :=
      hasTypeAfter_of_getLast? (by rw [hexecuted, List.getLast?_concat]) hlast
    exact .done (alterationEnd_of_ok hnew)
  | stopped e hprefix hne =>
    -- one statement at most has been executed before the one that failed
    have hprefix := (List.prefix_concat_iff.mp hprefix).resolve_left hne
    rcases hbefore with rfl | ⟨hpasses, first, hfirst, rfl⟩
    · rw [List.prefix_nil.mp hprefix] at hexecuted
      exact .done (alterationEnd_of_error ct newType e hexecuted)
    · rcases List.prefix_cons_iff.mp hprefix with rfl | ⟨rest, rfl, hrest⟩
      · exact .done (alterationEnd_of_error ct newType e hexecuted)
      · rw [List.prefix_nil.mp hrest] at hexecuted
        exact .done (alterationEnd_of_interrupted e hexecuted hpasses hfirst)

/-- A column of truth values in MySQL. -/
def flag : ColumnType where
  table := ⟨⟨⟨.mysql, none, fun _ => false, default⟩, "shop"⟩, "t", none, .table⟩
  column := "flag"
  sqlType := "bit"
  nullable := true

/-- A script that loses the connection when a column is to become an integer. -/
def lostOnInteger : Script where
  failRules :=
    [{ on := .executed, contains := " int ", fault := .adapter ⟨"lost connection", none⟩ }]

/-- The column has become text, and is remembered as it was. -/
theorem alterTo_interrupted :
    let run := (flag.alterTo "int" none).run Script.engine lostOnInteger
    run.1.2.sqlType = "bit" ∧ flag.HasTypeAfter run.2.1 "varchar(10)" ∧
      ¬ flag.HasTypeAfter run.2.1 run.1.2.sqlType := by
  intro run
  obtain ⟨hremembered, hexecuted⟩ : run.1.2.sqlType = "bit" ∧ executedStatements run.2.1 =
      ["ALTER TABLE `shop`.`t` MODIFY COLUMN `flag` varchar(10) NULL"] := by decide +kernel
  have hgiving : flag.givingStatement "varchar(10)" =
      .ok "ALTER TABLE `shop`.`t` MODIFY COLUMN `flag` varchar(10) NULL" := rfl
  have htext : flag.HasTypeAfter run.2.1 "varchar(10)" :=
    hasTypeAfter_of_getLast? (by rw [hexecuted, List.getLast?_singleton]) hgiving
  refine ⟨hremembered, htext, fun hold => ?_⟩
  rw [hremembered] at hold
  exact absurd (hasTypeAfter_unique hold htext) (by decide)

end ColumnType

end SqlDialects
