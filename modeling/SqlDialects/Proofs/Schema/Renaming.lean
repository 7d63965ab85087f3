import SqlDialects.Engine.Script
import SqlDialects.Proofs.Dialect.RuntimeName
import SqlDialects.Proofs.Engine.Ensures
import SqlDialects.Schema.Table

/-!
# Where a renamed handle points

Renaming a table changes two things: the engine executes a statement, which says what the table is
called from then on, and the handle remembers the new name, which it quotes and qualifies whenever
it is used.  The two should agree.

* **Statements.**  `Dialect.renameTarget?` reads a statement and says what it makes of the table;
  `renameTarget?_renameTable` is what it reads in the statements that are given.
* **Handles.**  `Table.PointsAt` says that the qualified name of a handle is that of the target, or
  ends in its name.
* `Table.renameTo_ends` — what a renaming comes to, whatever the engine answers.

The statement of most dialects has the new name as it is given, and the handle writes it without
the white space around it, and takes it over if it looks quoted.  So the handle points elsewhere if
there is any of this; in MySQL the statement takes the new name from the handle, and nothing can go
wrong.
-/

set_option autoImplicit false

namespace SqlDialects

open Text

/-! ## Reading quoted names -/

theorem length_replaceFrom_le {old new : Chars} (h : new.length ≤ 1) (skip : Nat)
    (s : Chars) : (replaceFrom old new skip s).length ≤ s.length := by
  induction s generalizing skip with
  | nil => cases skip <;> simp [replaceFrom]
  | cons c s ih =>
    cases skip with
    | succ skip =>
      rw [replaceFrom, List.length_cons]
      exact (ih skip).trans (Nat.le_succ _)
    | zero =>
      rw [replaceFrom, List.length_cons]
      split
      · rw [List.length_append]
        have := ih (old.length - 1)
        omega
      · rw [List.length_cons]
        exact Nat.succ_le_succ (ih 0)

namespace Quotes

variable {q : Quotes}

theorem doubleMarks_eq_replaceAll (name : Chars) :
    q.doubleMarks name = replaceAll [q.closeMark] [q.closeMark, q.closeMark] name := by
  rw [replaceAll]
  induction name with
  | nil => rfl
  | cons c name ih =>
    by_cases hc : c = q.closeMark
    · simp [doubleMarks, replaceFrom, hc, ih]
    · simp [doubleMarks, replaceFrom, hc, Ne.symm hc, ih]

/-- What is read from between quotes is shorter than what stood there. -/
theorem length_unquote_lt {s : Chars} (h : q.looksQuoted (trim s) = true) :
    (q.unquote s).length < s.length := by
  have hne : trim s ≠ [] := by
    intro hnil
    rw [hnil] at h
    exact absurd h (by simp [looksQuoted])
  have hpos := List.length_pos_of_ne_nil hne
  have hbody : ((trim s).drop 1).dropLast.length < (trim s).length := by
    rw [List.length_dropLast, List.length_drop]
    omega
  rw [unquote, if_pos h]
  exact ((length_replaceFrom_le (by simp) 0 _).trans_lt hbody).trans_le (length_trim_le s)

end Quotes

/-- A name that is written is read back as it is just when there is no white space around it and it
does not look quoted. -/
theorem unquote_written_eq_iff {style : QueryStyle} (hmarks : style.quotes.HasSolidMarks)
    {name : String} :
    style.quotes.unquote (style.written name) = name.toList ↔
      trim name.toList = name.toList ∧ style.quotes.looksQuoted name.toList = false := by
  rw [QueryStyle.written]
  by_cases hq : style.quotes.looksQuoted (trim name.toList) = true
  · have htrim : trim (trim name.toList) = trim name.toList := by
      simp only [Quotes.looksQuoted, Bool.and_eq_true, beq_iff_eq] at hq
      exact Quotes.trim_of_isEnclosed hmarks ⟨hq.1.2, hq.2⟩
    rw [if_pos hq]
    refine iff_of_false (fun heq => ?_) fun hplain => ?_
    · have hlt := Quotes.length_unquote_lt (htrim.symm ▸ hq)
      rw [heq] at hlt
      exact absurd (length_trim_le name.toList) (not_le_of_gt hlt)
    · rw [hplain.1, hplain.2] at hq
      contradiction
  · rw [if_neg hq, Quotes.unquote_quote hmarks]
    rw [Bool.not_eq_true] at hq
    exact ⟨fun heq => ⟨heq, heq ▸ hq⟩, fun hplain => hplain.1⟩

/-! ## Statements -/

/-- What a statement makes of a table. -/
inductive RenameTarget where
  /-- It is called by this name, where it is. -/
  | simple (name : Chars)
  /-- It is found by this qualified name. -/
  | qualified (text : Chars)

/-- The marks around a text within a statement. -/
def apostrophes : Quotes := ⟨'\x27', '\x27'⟩

/-- Reads what a statement makes of the table that is called `old` so far. -/
def Dialect.renameTarget? (dialect : Dialect) (old sql : String) : Option RenameTarget :=
  match dialect with
  | .mssql =>
    (after? ("exec sp_rename '" ++ escapeApostrophes old ++ "', ").toList sql.toList).map
      fun literal => .simple (apostrophes.unquote literal)
  | .mysql => (after? ("RENAME TABLE " ++ old ++ " TO ").toList sql.toList).map .qualified
  | _ =>
    (after? ("ALTER TABLE " ++ old ++ " RENAME TO ").toList sql.toList).map
      fun name => .simple (dialect.style.quotes.unquote name)

theorem after?_toList_append (start rest : String) :
    after? start.toList (start ++ rest).toList = some rest.toList := by
  rw [after?_eq_some_iff, String.toList_append]

/-- A text within a statement is read as it is. -/
theorem unquote_literal (text : String) :
    apostrophes.unquote ("'" ++ (escapeApostrophes text ++ "'")).toList = text.toList := by
  have hliteral : ("'" ++ (escapeApostrophes text ++ "'")).toList =
      apostrophes.quote text.toList := by
    have hescape : (escapeApostrophes text).toList = apostrophes.doubleMarks text.toList := by
      rw [escapeApostrophes, String.toList_ofList, Quotes.doubleMarks_eq_replaceAll]
      rfl
    rw [String.toList_append, String.toList_append, hescape]
    rfl
  rw [hliteral, Quotes.unquote_quote (by decide)]

theorem renameTable_mssql (old newName newWrapped newQualified : String) :
    Dialect.mssql.renameTable old newName newWrapped newQualified =
      "exec sp_rename '" ++ escapeApostrophes old ++ "', " ++
        ("'" ++ (escapeApostrophes newName ++ "'")) := by
  unfold Dialect.renameTable
  apply String.toList_inj.mp
  simp only [String.toList_append, List.append_assoc]
  rfl

/-- **What the statements make of a table.**  In MySQL it goes to a qualified name, and elsewhere it
gets the new name as it was given. -/
theorem renameTarget?_renameTable {dialect : Dialect} {old newName newWrapped newQualified : String}
    (hwrapped : dialect.style.wrap newName = .ok newWrapped) :
    dialect.renameTarget? old (dialect.renameTable old newName newWrapped newQualified) =
      some (if dialect = .mysql then .qualified newQualified.toList
        else .simple newName.toList) := by
  have hunquote : dialect.style.quotes.unquote newWrapped.toList = newName.toList := by
    rw [QueryStyle.wrap_eq_ok hwrapped, Quotes.unquote_quote (hasSolidMarks_quotes dialect)]
  cases dialect with
  | mssql =>
    rw [if_neg (by decide), ← unquote_literal newName, renameTable_mssql]
    exact congrArg (Option.map _) (after?_toList_append _ _)
  | mysql =>
    rw [if_pos rfl]
    exact congrArg (Option.map _) (after?_toList_append _ _)
  | postgres | oracle | sqlite =>
    rw [if_neg (by decide), ← hunquote]
    exact congrArg (Option.map _) (after?_toList_append _ _)

/-! ## Handles -/

namespace Table

/-- The qualified name of the handle is that of the target, or its last part is the name of the
target between quotes. -/
def PointsAt (t : Table) : RenameTarget → Prop
  | .simple name => ∃ text front, t.qualifiedName = .ok text ∧
      text.toList = front ++ t.dialect.style.written t.name ∧
      (front = [] ∨ front.getLast? = some '.') ∧
      t.dialect.style.quotes.unquote (t.dialect.style.written t.name) = name
  | .qualified text => ∃ name, t.qualifiedName = .ok name ∧ name.toList = text

/-- A qualified name ends in the name of the table, with a point before it if it is not all. -/
theorem exists_front_of_qualifiedName {t : Table} {text : String}
    (h : t.qualifiedName = .ok text) :
    ∃ front, text.toList = front ++ t.dialect.style.written t.name ∧
      (front = [] ∨ front.getLast? = some '.') := by
  have htext := QueryStyle.qualifyTable_eq_ok h
  obtain ⟨parts, hparts⟩ := List.getLast?_eq_some_iff.mp
    (QueryStyle.getLast?_tableParts t.dialect.style t.database.name t.schema t.name)
  rw [hparts, List.map_append, List.map_singleton] at htext
  by_cases hne : parts.map t.dialect.style.written = []
  · exact ⟨[], by rw [htext, hne]; simp, .inl rfl⟩
  · rw [Quotes.intercalate_concat _ _ hne, ← List.append_assoc] at htext
    refine ⟨_, htext, .inr ?_⟩
    rw [List.getLast?_append]
    rcases isSeparator_partSeparator t.dialect t.database.name t.schema with hsep | ⟨-, hsep⟩ <;>
      rw [hsep] <;> rfl

theorem pointsAt_simple_iff {t : Table} {text : String} (h : t.qualifiedName = .ok text) :
    t.PointsAt (.simple t.name.toList) ↔ trim t.name.toList = t.name.toList ∧
      t.dialect.style.quotes.looksQuoted t.name.toList = false := by
  rw [← unquote_written_eq_iff (hasSolidMarks_quotes t.dialect)]
  obtain ⟨front, hfront, hpoint⟩ := exists_front_of_qualifiedName h
  exact ⟨fun ⟨_, _, _, _, _, hname⟩ => hname, fun hname => ⟨text, front, h, hfront, hpoint, hname⟩⟩

/-! ## Renaming -/

/-- A statement is executed, or nothing is. -/
theorem execute_ensures (t : Table) (transaction : Option Transaction) (sql : String) :
    (t.execute transaction sql).run.Ensures fun outcome trace =>
      outcome = .ok () ∧ executedStatements trace = [sql] ∨
        (∃ e, outcome = .error e) ∧ executedStatements trace = [] := by
  have hconnection : (t.onConnection transaction fun c =>
      Action.execute c { text := sql }).run.Ensures fun outcome trace =>
        (∃ count, outcome = .ok count) ∧ executedStatements trace = [sql] ∨
          (∃ e, outcome = .error e) ∧ executedStatements trace = [] := by
    refine withConnection_ensures (fun outcome executed =>
      (∃ count, outcome = .ok count) ∧ executed = [sql] ∨
        (∃ e, outcome = .error e) ∧ executed = []) (fun e => .inr ⟨⟨e, rfl⟩, rfl⟩) fun c => ?_
    refine .call fun answer => ?_
    cases answer with
    | ok count => exact .inl ⟨⟨count, rfl⟩, rfl⟩
    | error e => exact .inr ⟨⟨e, rfl⟩, rfl⟩
  refine .bind hconnection (fun count first h => .done ?_) fun e first h => ?_
  · rcases h with ⟨-, h⟩ | ⟨⟨e, he⟩, -⟩
    · exact .inl ⟨rfl, by rw [List.append_nil, h]⟩
    · contradiction
  · rcases h with ⟨⟨count, hcount⟩, -⟩ | ⟨-, h⟩
    · contradiction
    · exact .inr ⟨⟨e, rfl⟩, h⟩

/-- How a renaming may end: `after` is the handle from then on, and the trace tells what became of
the table. -/
structure RenameEnd (t : Table) (newName : String) (outcome : Except SqlError Unit)
    (after : Table) (trace : List Exchange) : Prop where
  /-- A renaming that fails leaves the handle and the table as they were. -/
  failed : ∀ e, outcome = .error e → after = t ∧ executedStatements trace = []
  /-- A renaming that succeeds is one statement, and the handle has the new name. -/
  succeeded : outcome = .ok () → after = { t with name := newName } ∧
    ∃ old sql target, t.qualifiedName = .ok old ∧ executedStatements trace = [sql] ∧
      t.dialect.renameTarget? old sql = some target ∧
      (after.PointsAt target ↔ t.dialect = .mysql ∨
        trim newName.toList = newName.toList ∧
          t.dialect.style.quotes.looksQuoted newName.toList = false)

theorem renameEnd_of_error (t : Table) (newName : String) (e : SqlError) {trace : List Exchange}
    (h : executedStatements trace = []) : RenameEnd t newName (.error e) t trace where
  failed _ _ := ⟨rfl, h⟩
  succeeded hok := by contradiction

theorem renameEnd_of_ok {t : Table} {newName newQualified old newWrapped : String}
    {trace : List Exchange}
    (hqualified : ({ t with name := newName } : Table).qualifiedName = .ok newQualified)
    (hold : t.qualifiedName = .ok old) (hwrapped : t.dialect.style.wrap newName = .ok newWrapped)
    (h : executedStatements trace =
      [t.dialect.renameTable old newName newWrapped newQualified]) :
    RenameEnd t newName (.ok ()) { t with name := newName } trace where
  failed _ herror := by contradiction
  succeeded _ := by
    refine ⟨rfl, old, _, _, hold, h, renameTarget?_renameTable hwrapped, ?_⟩
    split
    · next hmysql => exact iff_of_true ⟨newQualified, hqualified, rfl⟩ (.inl hmysql)
    · next hmysql =>
      rw [or_iff_right hmysql]
      exact pointsAt_simple_iff hqualified

/-- What renaming makes of the handle and of the table, before the outcome is told. -/
theorem rename_ensures (t : Table) (newName : String) (transaction : Option Transaction) :
    (t.rename newName transaction).run.Ensures fun outcome trace =>
      match outcome with
      | .ok renamed => renamed = { t with name := newName } ∧
          RenameEnd t newName (.ok ()) renamed trace
      | .error e => RenameEnd t newName (.error e) t trace := by
  rw [rename]
  split
  · exact .done (renameEnd_of_error t newName _ rfl)
  refine .settled_bind (fun _ _ => ?_) fun e _ => renameEnd_of_error t newName e rfl
  refine .settled_bind (fun newQualified hqualified => ?_) fun e _ =>
    renameEnd_of_error t newName e rfl
  refine .settled_bind (fun old hold => ?_) fun e _ => renameEnd_of_error t newName e rfl
  refine .settled_bind (fun newWrapped hwrapped => ?_) fun e _ =>
    renameEnd_of_error t newName e rfl
  refine .bind (t.execute_ensures transaction _) (fun _ first h => .done ?_) fun e first h => ?_
  · rcases h with ⟨-, h⟩ | ⟨⟨e, he⟩, -⟩
    · rw [List.append_nil]
      exact ⟨rfl, renameEnd_of_ok hqualified hold hwrapped h⟩
    · contradiction
  · rcases h with ⟨he, -⟩ | ⟨-, h⟩
    · contradiction
    · exact renameEnd_of_error t newName e h

/-- **A renamed handle points at the renamed table**, unless the new name has white space around it
or looks quoted; in MySQL it always does. -/
theorem renameTo_ends (t : Table) (newName : String) (transaction : Option Transaction) :
    (t.renameTo newName transaction).Ensures fun (outcome, after) trace =>
      RenameEnd t newName outcome after trace := by
  refine .andThen (t.rename_ensures newName transaction) fun outcome trace h => ?_
  cases outcome with
  | error e => exact .done (by rwa [List.append_nil])
  | ok renamed => exact .done (by rw [List.append_nil]; exact h.2)

/-- A table of an embedded database. -/
def notes : Table := ⟨⟨⟨.sqlite, none, fun _ => false, default⟩, "shop"⟩, "t", none, .table⟩

/-- A new name between blanks: the table has them, and the handle does not. -/
theorem renameTo_between_blanks :
    let run := (notes.renameTo " x " none).run Script.engine {}
    run.1.2.name = " x " ∧
      executedStatements run.2.1 = ["ALTER TABLE \x22t\x22 RENAME TO \x22 x \x22"] ∧
      Dialect.sqlite.renameTarget? "\x22t\x22" "ALTER TABLE \x22t\x22 RENAME TO \x22 x \x22" =
        some (.simple " x ".toList) ∧
      run.1.2.qualifiedName = .ok "\x22x\x22" ∧ ¬ run.1.2.PointsAt (.simple " x ".toList) := by
  intro run
  obtain ⟨hname, hexecuted, hqualified⟩ : run.1.2.name = " x " ∧
      executedStatements run.2.1 = ["ALTER TABLE \x22t\x22 RENAME TO \x22 x \x22"] ∧
      run.1.2.qualifiedName = .ok "\x22x\x22" :=
    ⟨by decide, by decide, eq_ok_of_toOption (by decide)⟩
  refine ⟨hname, hexecuted, rfl, hqualified, fun hpoints => ?_⟩
  rw [← hname, pointsAt_simple_iff hqualified, hname] at hpoints
  exact absurd hpoints.1 (by decide)

end Table

end SqlDialects
