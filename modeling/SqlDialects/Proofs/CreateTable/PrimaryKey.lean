import SqlDialects.Proofs.CreateTable.Resolution
import SqlDialects.Proofs.CreateTable.Statement
import SqlDialects.Proofs.Dialect.QualifiedName
import SqlDialects.Proofs.Identifier
import SqlDialects.Proofs.Sql.TableElement
import SqlDialects.Proofs.TypeName.Spelling

/-!
# The primary key of a new table

Which columns a statement declares to be the primary key is told from its text alone, by reading it
as an engine does.  Two places of the statement can declare a key: the constraint behind the
columns, which lists the columns that are asked for, and, on SQLite, the definition of a column that
counts up.  There the keyword for counting up makes the column the key, so the constraint is left
out, and the columns that are asked for do not count.

* `isClause` — which texts of the caller can stand in a definition without changing its meaning.
* `declaresElement_columnLine`, `declaresElement_primaryKeyLine`, `declaresElement_foreignKeyLine` —
  what the parts of the statement declare.
* `planCreateTable_primaryKeys` — what the statement declares.
-/

set_option autoImplicit false

namespace SqlDialects

open Text

/-! ## Clauses -/

/-- Whether a text keeps to itself in the definition of a column: it ends what it begins, holds no
comma outside parentheses and does not declare a primary key. -/
def isClause (dialect : Dialect) (s : Chars) : Bool :=
  (readTokens? dialect s).any fun tokens =>
    isClosed 0 tokens && !hasPhrase "PRIMARY" "KEY" tokens

theorem isClause_iff {dialect : Dialect} {s : Chars} : isClause dialect s = true ↔
    ∃ tokens, readTokens? dialect s = some tokens ∧ isClosed 0 tokens = true ∧
      hasPhrase "PRIMARY" "KEY" tokens = false := by
  simp only [isClause, Option.any_eq_true, Bool.and_eq_true, Bool.not_eq_true']

/-- A part of a definition that follows other parts. -/
structure IsTail (dialect : Dialect) (s : Chars) (tokens : List Token) : Prop where
  apart : StandsApart s
  read : readTokens? dialect s = some tokens
  closed : isClosed 0 tokens = true
  /-- It does not complete a phrase. -/
  head : tokens.head? ≠ some (keyword "KEY")

section Tails

variable {dialect : Dialect} {s t : Chars} {first second : List Token}

theorem isTail_nil : IsTail dialect [] [] :=
  ⟨by simp [StandsApart], rfl, rfl, by simp⟩

theorem IsTail.append (hs : IsTail dialect s first) (ht : IsTail dialect t second) :
    IsTail dialect (s ++ t) (first ++ second) := by
  refine ⟨hs.apart.append ht.apart, readTokens?_append ht.apart hs.read ht.read, ?_, ?_⟩
  · rw [isClosed_append hs.closed, ht.closed]
  · cases first with
    | nil => exact ht.head
    | cons => exact hs.head

/-- A clause behind a keyword. -/
theorem isTail_keyword {word : Chars} {name : String}
    (hword : readTokens? dialect word = some [keyword name])
    (hfirst : keyword name ≠ keyword "PRIMARY") (hsecond : keyword name ≠ keyword "KEY")
    (hs : isClause dialect s = true) :
    ∃ tokens, IsTail dialect (' ' :: (word ++ ' ' :: s)) tokens ∧
      hasPhrase "PRIMARY" "KEY" tokens = false := by
  obtain ⟨tokens, hread, hclosed, hphrase⟩ := isClause_iff.mp hs
  refine ⟨keyword name :: tokens, ⟨standsApart_cons (by decide) _, ?_, ?_, ?_⟩, ?_⟩
  · rw [readTokens?_cons_blank]
    refine readTokens?_append (standsApart_cons (by decide) _) hword ?_
    rwa [readTokens?_cons_blank]
  · exact (isClosed_append (s := [keyword name]) rfl tokens).trans hclosed
  · exact fun h => hsecond (Option.some.inj h)
  · rw [hasPhrase_cons hfirst, hphrase]

end Tails

/-! ## Types -/

theorem isPlain_of_mem_toDigits (n : Nat) : ∀ c ∈ Nat.toDigits 10 n, isPlain c = true := by
  intro c hc
  rw [isPlain, Char.isAlphanum, isDigit_of_mem_toDigits hc, Bool.or_true, Bool.true_or]

/-- A numeral is a word. -/
theorem readTokens?_toDigits {dialect : Dialect} (n : Nat) :
    readTokens? dialect (Nat.toDigits 10 n) = some [.word (upper (Nat.toDigits 10 n))] :=
  readTokens?_of_isPlain Nat.toDigits_ne_nil (isPlain_of_mem_toDigits n)

/-- Behind a clause there may be another one between parentheses. -/
theorem isClause_append_group {dialect : Dialect} {s t : Chars} {tokens : List Token}
    (hs : isClause dialect s = true)
    (ht : readTokens? dialect ('(' :: t) = some (.mark '(' :: tokens))
    (hclosed : isClosed 1 tokens = true) (hphrase : hasPhrase "PRIMARY" "KEY" tokens = false) :
    isClause dialect (s ++ '(' :: t) = true := by
  obtain ⟨first, hread, hfirst, hquiet⟩ := isClause_iff.mp hs
  refine isClause_iff.mpr ⟨_, readTokens?_append (standsApart_cons (by decide) _) hread ht, ?_, ?_⟩
  · rw [isClosed_append hfirst]
    exact hclosed
  · rw [hasPhrase_append (by simp [keyword]), hquiet, hasPhrase_cons (by simp [keyword]), hphrase]
    rfl

theorem isClause_append_widthSuffix {dialect : Dialect} {s : Chars}
    (hs : isClause dialect s = true) (width : Nat) :
    isClause dialect (s ++ widthSuffix width) = true := by
  have hclose : readTokens? dialect [')'] = some [.mark ')'] :=
    readTokens?_cons_mark (by decide) rfl
  have hread := readTokens?_cons_mark (c := '(') (by decide)
    (readTokens?_append (standsApart_cons (by decide) _) (readTokens?_toDigits width) hclose)
  refine isClause_append_group hs hread rfl ?_
  rw [hasPhrase_append (by simp [keyword])]
  simp [hasPhrase, keyword, List.infix_cons_iff]

theorem isClause_append_sizeSuffix {dialect : Dialect} {s : Chars}
    (hs : isClause dialect s = true) (precision scale : Nat) :
    isClause dialect (s ++ sizeSuffix precision scale) = true := by
  have hclose : readTokens? dialect [')'] = some [.mark ')'] :=
    readTokens?_cons_mark (by decide) rfl
  have hscale := readTokens?_cons_mark (c := ',') (by decide)
    (readTokens?_append (standsApart_cons (by decide) _) (readTokens?_toDigits scale) hclose)
  have hread := readTokens?_cons_mark (c := '(') (by decide)
    (readTokens?_append (standsApart_cons (by decide) _) (readTokens?_toDigits precision) hscale)
  refine isClause_append_group hs hread rfl ?_
  simp [hasPhrase, keyword, List.infix_cons_iff]

/-- Declared types are clauses. -/
theorem isClause_declare (dialect : Dialect) (r : TypeRequest) :
    isClause dialect (dialect.declare r).toList = true := by
  have hnames : ∀ name ∈ dialect.types.fixedNames ++ dialect.types.widthNames ++
      [dialect.types.decimalName], isClause dialect name.toList = true := by
    cases dialect <;> decide +kernel
  rw [List.forall_mem_append, List.forall_mem_append] at hnames
  rcases declare_eq dialect r with h | ⟨name, hname, width, h⟩ | ⟨precision, scale, h⟩
  · exact hnames.1.1 _ h
  · rw [h]
    exact isClause_append_widthSuffix (hnames.1.2 name hname) width
  · rw [h]
    exact isClause_append_sizeSuffix (hnames.2 _ (List.mem_singleton_self _)) precision scale

/-! ## Columns -/

namespace ColumnRequest

variable {dialect : Dialect}

theorem isTail_defaultClause (c : ColumnRequest) (dialect : Dialect) :
    ∃ tokens, IsTail dialect (c.defaultClause dialect).toList tokens ∧
      hasPhrase "PRIMARY" "KEY" tokens = false := by
  rw [defaultClause]
  cases c.default.function? with
  | none => exact ⟨[], isTail_nil, rfl⟩
  | some function =>
    have hword : readTokens? dialect "default".toList = some [keyword "DEFAULT"] :=
      readTokens?_words (by decide)
    have hcall : isClause dialect (dialect.style.call function).toList = true := by
      cases dialect <;> cases function <;> decide +kernel
    have h := isTail_keyword hword (by decide) (by decide) hcall
    rwa [String.toList_append]

theorem isTail_collationClause {c : ColumnRequest}
    (h : ∀ t ∈ c.collation, isClause dialect t.toList = true) :
    ∃ tokens, IsTail dialect c.collationClause.toList tokens ∧
      hasPhrase "PRIMARY" "KEY" tokens = false := by
  rw [collationClause]
  cases hcollation : c.collation with
  | none => exact ⟨[], isTail_nil, rfl⟩
  | some collation =>
    have hword : readTokens? dialect "COLLATE".toList = some [keyword "COLLATE"] :=
      readTokens?_words (by decide)
    have h := isTail_keyword hword (by decide) (by decide) (h collation hcollation)
    rwa [String.toList_append]

/-- **The last clauses** declare the column to be the primary key just if the keyword for counting
up does, and they say whether it may be null. -/
theorem isTail_lastClauses (c : ColumnRequest) (dialect : Dialect) :
    ∃ tokens, IsTail dialect (c.lastClauses dialect).toList tokens ∧
      hasPhrase "PRIMARY" "KEY" tokens = (dialect.countsUpPrimaryKey && c.isAutoIncrement) ∧
      (c.mayBeNull = false → hasPhrase "NOT" "NULL" tokens = true) := by
  rw [lastClauses]
  generalize c.mayBeNull = nullable
  generalize c.isAutoIncrement = counting
  generalize htext : (" " ++ nullClause nullable ++
    if counting then " " ++ dialect.style.autoIncrement else "").toList = text
  have hall : (readTokens? dialect text).any (fun tokens => isClosed 0 tokens &&
      tokens.head? != some (keyword "KEY") &&
      hasPhrase "PRIMARY" "KEY" tokens == (dialect.countsUpPrimaryKey && counting) &&
      (nullable || hasPhrase "NOT" "NULL" tokens)) = true := by
    subst htext
    cases dialect <;> cases nullable <;> cases counting <;> decide +kernel
  have hapart : StandsApart text := by
    rw [← htext, String.toList_append, String.toList_append]
    exact standsApart_cons (by decide) _
  obtain ⟨tokens, hread, h⟩ := (Option.any_eq_true _ _).mp hall
  simp only [Bool.and_eq_true, bne_iff_ne, beq_iff_eq, Bool.or_eq_true] at h
  obtain ⟨⟨⟨hclosed, hhead⟩, hkey⟩, hnull⟩ := h
  exact ⟨tokens, ⟨hapart, hread, hclosed, hhead⟩, hkey,
    fun hnullable => hnull.resolve_left (hnullable ▸ Bool.false_ne_true)⟩

/-- What stands for the type is a clause, if what is given by name is. -/
theorem isClause_writtenType {c : ColumnRequest} {sqlType : String}
    (h : ∀ t ∈ c.explicitType, isClause dialect (c.writtenType dialect t).toList = true)
    (htype : c.sqlType dialect = .ok sqlType) :
    isClause dialect (c.writtenType dialect sqlType).toList = true := by
  rw [ColumnRequest.sqlType] at htype
  cases hexplicit : c.explicitType with
  | some t =>
    rw [hexplicit] at htype h
    obtain rfl := Except.ok.inj htype
    exact h t rfl
  | none =>
    rw [hexplicit] at htype
    cases hrequest : c.typeRequest with
    | none => simp [hrequest] at htype
    | some r =>
      simp only [hrequest, Except.ok.injEq] at htype
      have hinteger : isClause .sqlite "INTEGER".toList = true := by decide +kernel
      rw [← htype, writtenType]
      split
      · cases dialect with
        | sqlite => exact hinteger
        | _ => exact isClause_declare _ r
      · exact isClause_declare dialect r

/-- The texts of a request that stand in the definition of the column without quotes are clauses. -/
structure IsReadable (dialect : Dialect) (c : ColumnRequest) : Prop where
  type : ∀ t ∈ c.explicitType, isClause dialect (c.writtenType dialect t).toList = true
  collation : ∀ t ∈ c.collation, isClause dialect t.toList = true

/-- What the definition of a column has to say: the keyword for counting up makes the column the
primary key on SQLite, and a column of the key that is asked for is not null. -/
def Defines (dialect : Dialect) (c : ColumnRequest) (element : TableElement) : Prop :=
  ∃ isRequired, element =
      .column c.name.toList (dialect.countsUpPrimaryKey && c.isAutoIncrement) isRequired ∧
    (c.isPrimaryKey = true → isRequired = true)

end ColumnRequest

/-- **The definition of a column** declares the column. -/
theorem declaresElement_columnLine {dialect : Dialect} {c : ColumnRequest} {text : String}
    (hc : c.IsReadable dialect) (h : columnLine dialect c = .ok text) :
    ∃ element, DeclaresElement dialect text.toList element ∧ c.Defines dialect element := by
  obtain ⟨sqlType, htype, heq⟩ := columnLine_eq_ok h
  obtain ⟨typeTokens, hread, hclosed, hquiet⟩ :=
    isClause_iff.mp (ColumnRequest.isClause_writtenType hc.type htype)
  obtain ⟨defaultTokens, hdefault, hdefaultQuiet⟩ := c.isTail_defaultClause dialect
  obtain ⟨collationTokens, hcollation, hcollationQuiet⟩ :=
    ColumnRequest.isTail_collationClause hc.collation
  obtain ⟨lastTokens, hlast, hkey, hnull⟩ := c.isTail_lastClauses dialect
  have hrest := hcollation.append hlast
  have htail := hdefault.append hrest
  refine ⟨_, ⟨.name c.name.toList ::
    (typeTokens ++ (defaultTokens ++ (collationTokens ++ lastTokens))), ?_, ?_, rfl⟩, _,
    congrArg (TableElement.column _ · _) ?_, fun hprimary => ?_⟩
  · rw [heq]
    refine readTokens?_append (standsApart_cons (by decide) _) (readTokens?_quote _) ?_
    rw [readTokens?_cons_blank]
    exact readTokens?_append htail.apart hread htail.read
  · exact (isClosed_append (s := [.name c.name.toList]) rfl _).trans
      ((isClosed_append hclosed _).trans htail.closed)
  · rw [hasPhrase_append htail.head, hasPhrase_append hrest.head, hasPhrase_append hlast.head,
      hquiet, hdefaultQuiet, hcollationQuiet, hkey]
    rfl
  · have hnullable : c.mayBeNull = false := by
      rw [ColumnRequest.mayBeNull, hprimary]
      exact Bool.and_false _
    exact hasPhrase_append_right _ (hasPhrase_append_right _ (hasPhrase_append_right _
      (hnull hnullable)))

/-! ## Keys -/

section Keys

variable {dialect : Dialect}

/-- A constraint begins with its name. -/
theorem readTokens?_constraint {name s : Chars} {clauses : List Token} (hne : name ≠ [])
    (hname : ∀ c ∈ name, isPlain c = true) (hs : readTokens? dialect s = some clauses) :
    readTokens? dialect ("CONSTRAINT ".toList ++ (name ++ ' ' :: s)) =
      some (keyword "CONSTRAINT" :: .word (upper name) :: clauses) := by
  have hword : readTokens? dialect "CONSTRAINT".toList = some [keyword "CONSTRAINT"] :=
    readTokens?_words (by decide)
  have hblank : "CONSTRAINT ".toList = "CONSTRAINT".toList ++ [' '] := by decide
  rw [← readTokens?_cons_blank] at hs
  have hrest := readTokens?_append (standsApart_cons (by decide) _)
    (readTokens?_of_isPlain hne hname) hs
  rw [← readTokens?_cons_blank] at hrest
  rw [hblank, List.append_assoc]
  exact readTokens?_append (standsApart_cons (by decide) _) hword hrest

theorem primaryKeyName_ne_nil (token : NameToken) (table : String) :
    (primaryKeyName token table).toList ≠ [] := by
  simp [primaryKeyName]

theorem foreignKeyName_ne_nil (token other : NameToken) (foreignTable primaryTable : String) :
    (foreignKeyName token other foreignTable primaryTable).toList ≠ [] := by
  simp [foreignKeyName]

/-- The constraint for the primary key, if there is to be one: it lists the columns that are asked
for, in their order. -/
def keyConstraints (dialect : Dialect) (columns : List ColumnRequest) : List TableElement :=
  if writesPrimaryKey dialect columns then
    [.primaryKey ((columns.filter ColumnRequest.isPrimaryKey).map fun c => c.name.toList)]
  else []

/-- **The definition of the primary key** declares that constraint. -/
theorem declaresElement_primaryKeyLine {token : NameToken} {table : String}
    {columns : List ColumnRequest} {lines : List String}
    (h : primaryKeyLine dialect token table columns = .ok lines) :
    List.Forall₂ (DeclaresElement dialect) (lines.map String.toList)
      (keyConstraints dialect columns) := by
  rw [primaryKeyLine_eq_ok h, keyConstraints]
  by_cases hwrites : writesPrimaryKey dialect columns
  · rw [if_pos hwrites, if_pos hwrites, List.forall₂_cons, and_iff_left .nil]
    generalize hnames :
      (columns.filter ColumnRequest.isPrimaryKey).map (fun c => c.name.toList) = names
    have hne : names ≠ [] := by
      rw [← hnames, ne_eq, List.map_eq_nil_iff]
      exact hwrites.1
    have htext : " PRIMARY KEY (".toList ++ (quotedList dialect.style.quotes
        ((columns.filter ColumnRequest.isPrimaryKey).map ColumnRequest.name) ++ [')']) =
        ' ' :: ("PRIMARY KEY ".toList ++ quotedGroup dialect.style.quotes names) := by
      have hopen : " PRIMARY KEY (".toList = ' ' :: ("PRIMARY KEY ".toList ++ ['(']) := by decide
      rw [hopen, quotedList, quotedGroup, ← hnames, List.map_map, List.map_map, List.cons_append,
        List.append_assoc]
      rfl
    have hwords : readTokens? dialect "PRIMARY KEY ".toList =
        some [keyword "PRIMARY", keyword "KEY"] :=
      readTokens?_words (by decide)
    have hread := readTokens?_append (standsApart_cons (by decide) _) hwords
      (readTokens?_quotedGroup names)
    have hkey : hasPhrase "PRIMARY" "KEY"
        ([keyword "PRIMARY", keyword "KEY"] ++ nameGroup names) = true :=
      decide_eq_true (List.prefix_append _ _).isInfix
    rw [htext]
    refine ⟨_, readTokens?_constraint (primaryKeyName_ne_nil token table)
      (primaryKeyName_isPlain token table) hread, isClosed_nameGroup names, ?_⟩
    rw [tableElement?_constraint, if_pos hkey]
    exact congrArg (Option.map _) (nameList?_intercalate hne)
  · rw [if_neg hwrites, if_neg hwrites]
    exact .nil

/-- The clauses of a foreign key say nothing of a primary one. -/
theorem readTokens?_foreignKey {primaryTable last : Chars} {tail : List Token} {gaps : Bool}
    (htable : dialect.style.quotes.IsNameSequence gaps primaryTable) (hlast : StandsApart last)
    (htail : readTokens? dialect last = some tail) (hclosed : isClosed 0 tail = true)
    (hquiet : keyword "PRIMARY" ∉ tail) (names primaryNames : List Chars) :
    ∃ clauses, readTokens? dialect ("FOREIGN KEY ".toList ++
        (quotedGroup dialect.style.quotes names ++ ' ' :: ("REFERENCES".toList ++
          ' ' :: (primaryTable ++ (quotedGroup dialect.style.quotes primaryNames ++ last))))) =
        some clauses ∧
      isClosed 0 clauses = true ∧ hasPhrase "PRIMARY" "KEY" clauses = false := by
  obtain ⟨table, hread, hparts⟩ := htable.readTokens?
  have hforeign : readTokens? dialect "FOREIGN KEY ".toList =
      some [keyword "FOREIGN", keyword "KEY"] :=
    readTokens?_words (by decide)
  have hreferences : readTokens? dialect "REFERENCES".toList = some [keyword "REFERENCES"] :=
    readTokens?_words (by decide)
  -- from the end on, as each piece needs something apart behind it
  have hprimary := readTokens?_append hlast (readTokens?_quotedGroup primaryNames) htail
  have hto := readTokens?_append (standsApart_cons (by decide) _) hread hprimary
  rw [← readTokens?_cons_blank] at hto
  have hbehind := readTokens?_append (standsApart_cons (by decide) _) hreferences hto
  rw [← readTokens?_cons_blank] at hbehind
  have hnames := readTokens?_append (standsApart_cons (by decide) _)
    (readTokens?_quotedGroup names) hbehind
  refine ⟨_, readTokens?_append (standsApart_cons (by decide) _) hforeign hnames, ?_, ?_⟩
  · have hmarks : isClosed 0 table = true := by
      refine isClosed_of_forall fun t ht => ?_
      have hpart := hparts t ht
      refine ⟨?_, ?_, ?_⟩ <;> rintro rfl <;> exact absurd hpart (by decide)
    rw [isClosed_append (by decide), isClosed_append (isClosed_nameGroup names),
      isClosed_append (by decide), isClosed_append hmarks,
      isClosed_append (isClosed_nameGroup primaryNames), hclosed]
  · have htable : keyword "PRIMARY" ∉ table := fun hmem => absurd (hparts _ hmem) (by decide)
    refine hasPhrase_of_notMem ?_
    simp only [List.mem_append, not_or]
    exact ⟨by decide, keyword_notMem_nameGroup _ names, by decide, htable,
      keyword_notMem_nameGroup _ primaryNames, hquiet⟩

/-- Names that are quoted one by one are quoted as a list. -/
theorem exists_commaList_eq {q : Quotes} {items : List String}
    (h : ∀ item ∈ items, ∃ name, item.toList = q.quote name) :
    ∃ names : List Chars,
      '(' :: ((commaList items).toList ++ [')']) = quotedGroup q names := by
  have hnames : ∃ names : List Chars, items.map String.toList = names.map q.quote := by
    induction items with
    | nil => exact ⟨[], rfl⟩
    | cons item items ih =>
      rw [List.forall_mem_cons] at h
      obtain ⟨⟨name, hname⟩, hrest⟩ := h
      obtain ⟨names, hnames⟩ := ih hrest
      exact ⟨name :: names, by rw [List.map_cons, List.map_cons, hname, hnames]⟩
  obtain ⟨names, hnames⟩ := hnames
  refine ⟨names, ?_⟩
  rw [commaList, String.toList_intercalate, hnames]
  rfl

/-- **The definition of a foreign key** is a constraint of another kind. -/
theorem declaresElement_foreignKeyClause {constraint primaryTable : String} {gaps : Bool}
    (hne : constraint.toList ≠ []) (hplain : ∀ c ∈ constraint.toList, isPlain c = true)
    (htable : dialect.style.quotes.IsNameSequence gaps primaryTable.toList)
    {columns primaryColumns : List String}
    (hcolumns : ∀ item ∈ columns, ∃ name, item.toList = dialect.style.quotes.quote name)
    (hprimary : ∀ item ∈ primaryColumns, ∃ name, item.toList = dialect.style.quotes.quote name)
    (cascade : Bool) :
    DeclaresElement dialect
      (foreignKeyClause constraint columns primaryTable primaryColumns cascade).toList
      .otherConstraint := by
  obtain ⟨names, hnames⟩ := exists_commaList_eq hcolumns
  obtain ⟨primaryNames, hprimaryNames⟩ := exists_commaList_eq hprimary
  obtain ⟨tail, hlast, htail, hclosed, hquiet⟩ : ∃ tail,
      StandsApart (if cascade then " ON DELETE CASCADE" else "").toList ∧
      readTokens? dialect (if cascade then " ON DELETE CASCADE" else "").toList = some tail ∧
      isClosed 0 tail = true ∧ keyword "PRIMARY" ∉ tail := by
    cases cascade with
    | false => exact ⟨[], by simp [StandsApart], rfl, rfl, List.not_mem_nil⟩
    | true =>
      exact ⟨[keyword "ON", keyword "DELETE", keyword "CASCADE"],
        standsApart_cons (by decide) _, readTokens?_words (by decide), rfl, by decide⟩
  obtain ⟨clauses, hread, hclauses, hphrase⟩ :=
    readTokens?_foreignKey htable hlast htail hclosed hquiet names primaryNames
  -- the text again, divided where its tokens are
  have hopen : " FOREIGN KEY (".toList = ' ' :: ("FOREIGN KEY ".toList ++ ['(']) := by decide
  have hbetween : ") REFERENCES ".toList = ')' :: ' ' :: ("REFERENCES".toList ++ [' ']) := by
    decide
  have hbracket : "(".toList = ['('] := rfl
  have hclose : ")".toList = [')'] := rfl
  have htext :
      (foreignKeyClause constraint columns primaryTable primaryColumns cascade).toList =
      "CONSTRAINT ".toList ++ (constraint.toList ++ ' ' :: ("FOREIGN KEY ".toList ++
        (quotedGroup dialect.style.quotes names ++ ' ' :: ("REFERENCES".toList ++
          ' ' :: (primaryTable.toList ++ (quotedGroup dialect.style.quotes primaryNames ++
            (if cascade then " ON DELETE CASCADE" else "").toList)))))) := by
    rw [toList_foreignKeyClause, hopen, hbetween, hbracket, hclose, ← hnames, ← hprimaryNames]
    simp only [List.append_assoc, List.cons_append, List.nil_append]
  rw [htext]
  refine ⟨_, readTokens?_constraint hne hplain hread, hclauses, ?_⟩
  rw [tableElement?_constraint, hphrase]
  rfl

/-- The columns of a foreign key are quoted on both sides, if they are in databases of one
dialect. -/
theorem quoted_foreignKeyPairs {table : String} {columns : List ColumnRequest}
    {keys : List (String × Column)} {pairs : List (String × String)}
    (hdialect : ∀ key ∈ keys, key.2.table.dialect = dialect)
    (h : foreignKeyPairs dialect table columns keys = .ok pairs) :
    ∀ pair ∈ pairs, (∃ name, pair.1.toList = dialect.style.quotes.quote name) ∧
      ∃ name, pair.2.toList = dialect.style.quotes.quote name := by
  have hall := foreignKeyPairs_eq_ok h
  clear h
  induction hall with
  | nil => exact fun _ hmem => nomatch hmem
  | cons hpair _ ih =>
    rw [List.forall_mem_cons] at hdialect ⊢
    obtain ⟨column, -, hforeign, hprimary⟩ := hpair
    rw [hdialect.1] at hprimary
    exact ⟨⟨⟨_, hforeign⟩, ⟨_, hprimary⟩⟩, ih hdialect.2⟩

end Keys

/-! ## The statement -/

/-- The texts that stand in the statement as they are do not change its meaning: qualified names are
sequences of quoted names, the columns can be read, and what a foreign key refers to is in a
database of the same dialect. -/
structure CreateTableArgs.IsReadable (args : CreateTableArgs) (d : Database)
    (columns : List ColumnRequest) : Prop where
  table : ∀ text, (d.table args.table args.schema .table).qualifiedName = .ok text →
    d.dialect.style.quotes.IsNameSequence d.dialect.leavesGaps text.toList
  columns : ∀ c ∈ columns, c.IsReadable d.dialect
  foreignKeys : ∀ key ∈ args.foreignKeys, key.2.table.dialect = d.dialect ∧
    ∀ text, key.2.table.qualifiedName = .ok text →
      d.dialect.style.quotes.IsNameSequence d.dialect.leavesGaps text.toList

variable {d : Database} {args : CreateTableArgs}

theorem declaresElement_foreignKeyLine {token other : NameToken} {columns : List ColumnRequest}
    (hread : args.IsReadable d columns) {lines : List String}
    (h : foreignKeyLine d.dialect token other args columns = .ok lines) :
    ∃ elements, List.Forall₂ (DeclaresElement d.dialect) (lines.map String.toList) elements ∧
      ∀ e ∈ elements, e = .otherConstraint := by
  rcases foreignKeyLine_eq_ok h with ⟨-, rfl⟩ |
    ⟨first, rest, pairs, primaryTable, hkeys, hpairs, htable, rfl⟩
  · exact ⟨[], .nil, fun _ hmem => nomatch hmem⟩
  · have hforeign := hread.foreignKeys
    rw [hkeys] at hforeign
    have hquoted := quoted_foreignKeyPairs (fun key hkey => (hforeign key hkey).1) hpairs
    refine ⟨[.otherConstraint], .cons ?_ .nil, fun _ => List.mem_singleton.mp⟩
    have hsequence := (hforeign first List.mem_cons_self).2 _ htable
    refine declaresElement_foreignKeyClause (foreignKeyName_ne_nil _ _ _ _)
      (foreignKeyName_isPlain _ _ _ _) hsequence ?_ ?_ args.cascade
    · rw [List.forall_mem_map]
      exact fun pair hpair => (hquoted pair hpair).1
    · rw [List.forall_mem_map]
      exact fun pair hpair => (hquoted pair hpair).2

theorem declaresElement_columnLines {dialect : Dialect} {columns : List ColumnRequest}
    {lines : List String} (hread : ∀ c ∈ columns, c.IsReadable dialect)
    (h : List.Forall₂ (fun c text => columnLine dialect c = .ok text) columns lines) :
    ∃ elements, List.Forall₂ (DeclaresElement dialect) (lines.map String.toList) elements ∧
      List.Forall₂ (ColumnRequest.Defines dialect) columns elements := by
  induction h with
  | nil => exact ⟨[], .nil, .nil⟩
  | cons hline _ ih =>
    rw [List.forall_mem_cons] at hread
    obtain ⟨element, hdeclares, hdefines⟩ := declaresElement_columnLine hread.1 hline
    obtain ⟨elements, hall, hcolumns⟩ := ih hread.2
    exact ⟨element :: elements, .cons hdeclares hall, .cons hdefines hcolumns⟩

/-- The keys that columns declare by themselves. -/
theorem primaryKeys_of_defines {dialect : Dialect} {columns : List ColumnRequest}
    {elements : List TableElement}
    (h : List.Forall₂ (ColumnRequest.Defines dialect) columns elements) :
    primaryKeys elements =
      (columns.filter fun c => dialect.countsUpPrimaryKey && c.isAutoIncrement).map
        fun c => [c.name.toList] := by
  induction h with
  | nil => rfl
  | cons hdefines _ ih =>
    obtain ⟨isRequired, rfl, -⟩ := hdefines
    rw [primaryKeys_cons_column, ih, List.filter_cons]
    split
    · rw [List.map_cons]
    · rfl

/-- **The statement declares** the columns, the constraint for the primary key if there is to be
one, and nothing else that has to do with it. -/
theorem tableElements?_planCreateTable {plan : CreateTablePlan}
    (h : planCreateTable d args = .ok plan) (hread : args.IsReadable d plan.columns) :
    ∃ columns others,
      tableElements? d.dialect plan.sql =
        some (columns ++ (keyConstraints d.dialect plan.columns ++ others)) ∧
      List.Forall₂ (ColumnRequest.Defines d.dialect) plan.columns columns ∧
      ∀ e ∈ others, e = .otherConstraint := by
  obtain ⟨qualifiedName, hplanned⟩ := exists_planned h
  obtain ⟨columnLines, primaryKey, foreignKey, hcolumns, hprimary, hforeign, hsql⟩ :=
    createTableSql_eq_ok hplanned.statement
  obtain ⟨elements, hdeclared, hdefined⟩ := declaresElement_columnLines hread.columns hcolumns
  obtain ⟨others, hothers, hkinds⟩ := declaresElement_foreignKeyLine hread hforeign
  have hkey := declaresElement_primaryKeyLine hprimary
  have hne : columnLines.map String.toList ++ (primaryKey.map String.toList ++
      foreignKey.map String.toList) ≠ [] := by
    intro hnil
    have hlines := List.map_eq_nil_iff.mp (List.append_eq_nil_iff.mp hnil).1
    rw [hlines] at hcolumns
    exact hplanned.columns_ne_nil (List.forall₂_nil_right_iff.mp hcolumns)
  have hcreate : "CREATE TABLE ".toList = "CREATE TABLE".toList ++ [' '] := by decide
  rw [hcreate, List.append_assoc, List.map_append, List.map_append, List.append_assoc] at hsql
  exact ⟨elements, others, tableElements?_eq_some (hread.table _ hplanned.qualified) hne
    (List.rel_append hdeclared (List.rel_append hkey hothers)) hsql, hdefined, hkinds⟩

/-- The columns that count up declare the key, or the constraint does. -/
theorem primaryKeys_append_keyConstraints {dialect : Dialect} {columns : List ColumnRequest}
    {elements : List TableElement}
    (h : List.Forall₂ (ColumnRequest.Defines dialect) columns elements) :
    primaryKeys (elements ++ keyConstraints dialect columns) =
      if dialect.countsUpPrimaryKey && columns.any ColumnRequest.isAutoIncrement then
        (columns.filter ColumnRequest.isAutoIncrement).map fun c => [c.name.toList]
      else if columns.any ColumnRequest.isPrimaryKey then
        [(columns.filter ColumnRequest.isPrimaryKey).map fun c => c.name.toList]
      else [] := by
  have hwrites : writesPrimaryKey dialect columns ↔
      columns.any ColumnRequest.isPrimaryKey = true ∧
        (dialect.countsUpPrimaryKey && columns.any ColumnRequest.isAutoIncrement) = false := by
    simp only [writesPrimaryKey, ne_eq, List.filter_eq_nil_iff, List.any_eq_true, not_forall,
      not_not, exists_prop]
  rw [primaryKeys_append, primaryKeys_of_defines h, keyConstraints]
  cases hinline : dialect.countsUpPrimaryKey && columns.any ColumnRequest.isAutoIncrement with
  | true =>
    -- columns that count up are keys by themselves, so no constraint is written
    have hnone : ¬writesPrimaryKey dialect columns := by
      rw [hwrites, hinline]
      exact fun h => Bool.noConfusion h.2
    rw [Bool.and_eq_true] at hinline
    rw [if_pos rfl, if_neg hnone, hinline.1]
    exact List.append_nil _
  | false =>
    have hnone :
        columns.filter (fun c => dialect.countsUpPrimaryKey && c.isAutoIncrement) = [] := by
      rw [List.filter_eq_nil_iff]
      intro c hc hcounts
      rw [Bool.and_eq_true] at hcounts
      rw [hcounts.1, Bool.true_and, List.any_eq_false] at hinline
      exact hinline c hc hcounts.2
    rw [hinline, and_iff_left rfl] at hwrites
    rw [hnone, List.map_nil, List.nil_append, if_neg Bool.false_ne_true]
    by_cases hasked : columns.any ColumnRequest.isPrimaryKey = true
    · rw [if_pos hasked, if_pos (hwrites.mpr hasked)]
      rfl
    · rw [if_neg hasked, if_neg (hwrites.not.mpr hasked)]
      rfl

/-- **Which primary key a new table has.**  On SQLite, where the keyword for counting up says so,
each column that counts up is declared to be the primary key, and there is no constraint, whatever
is asked for.  Otherwise the constraint is the only declaration, and it lists the columns that are
asked for in their order.  In any case the columns asked for are not null. -/
theorem planCreateTable_primaryKeys {plan : CreateTablePlan}
    (h : planCreateTable d args = .ok plan) (hread : args.IsReadable d plan.columns) :
    ∃ columns constraints, tableElements? d.dialect plan.sql = some (columns ++ constraints) ∧
      List.Forall₂ (ColumnRequest.Defines d.dialect) plan.columns columns ∧
      (∀ e ∈ constraints, ∀ name isKey isRequired, e ≠ .column name isKey isRequired) ∧
      primaryKeys (columns ++ constraints) =
        if d.dialect.countsUpPrimaryKey && plan.columns.any ColumnRequest.isAutoIncrement then
          (plan.columns.filter ColumnRequest.isAutoIncrement).map fun c => [c.name.toList]
        else if plan.columns.any ColumnRequest.isPrimaryKey then
          [(plan.columns.filter ColumnRequest.isPrimaryKey).map fun c => c.name.toList]
        else [] := by
  obtain ⟨columns, others, hread, hdefined, hothers⟩ := tableElements?_planCreateTable h hread
  refine ⟨columns, _, hread, hdefined, ?_, ?_⟩
  · rw [keyConstraints, List.forall_mem_append]
    constructor
    · split <;> simp
    · rintro e he name isKey isRequired rfl
      exact absurd (hothers _ he) (by simp)
  · have hnone : primaryKeys others = [] := by
      rw [primaryKeys, List.filterMap_eq_nil_iff]
      intro e he
      rw [hothers e he]
      rfl
    rw [← List.append_assoc, primaryKeys_append, hnone, List.append_nil,
      primaryKeys_append_keyConstraints hdefined]

/-- The table of days. -/
def days : Table := (shop .mssql).table "days" none .table

/-- A table with a key of two columns, between which there is one that counts up. -/
def stockTable : CreateTableArgs where
  table := "stock"
  explicitColumns :=
    [{ name := "shelf, no", explicitType := some "varchar(20)", isPrimaryKey := true
       collation := some "Latin1_General_BIN" },
     { name := "n", explicitType := some "int", isAutoIncrement := true },
     { name := "day", typeRequest := some (.ofKind .dateTime), isPrimaryKey := true }]
  foreignKeys := [("day", ⟨"day", false, true, false, none, ⟨days, "day", "date", false, []⟩⟩)]

/-- The statement for the table. -/
def stockSql : String :=
  "CREATE TABLE [shop]..[stock](\n" ++
    "[shelf, no] varchar(20) COLLATE Latin1_General_BIN NOT NULL,\n" ++
    "[n] int NULL IDENTITY(1,1),\n[day] datetime2 NOT NULL,\n" ++
    "CONSTRAINT PK_stock PRIMARY KEY ([shelf, no],[day]),\n" ++
    "CONSTRAINT FK_stock_days FOREIGN KEY ([day]) REFERENCES [shop]..[days]([day])\n)"

theorem isReadable_stockTable : stockTable.IsReadable (shop .mssql) stockTable.explicitColumns where
  table text h := by
    obtain rfl := Except.ok.inj h
    rw [Quotes.isNameSequence_iff (by decide)]
    decide +kernel
  columns := by
    have hclauses : ∀ c ∈ stockTable.explicitColumns,
        (∀ t ∈ c.explicitType, isClause .mssql (c.writtenType .mssql t).toList = true) ∧
          ∀ t ∈ c.collation, isClause .mssql t.toList = true := by
      decide +kernel
    exact fun c hc => ⟨(hclauses c hc).1, (hclauses c hc).2⟩
  foreignKeys := by
    refine List.forall_mem_singleton.mpr ⟨rfl, fun text h => ?_⟩
    obtain rfl := Except.ok.inj h
    rw [Quotes.isNameSequence_iff (by decide)]
    decide +kernel

/-- The key is what is asked for, in its order. -/
theorem stockTable_primaryKeys :
    planCreateTable (shop .mssql) stockTable = .ok ⟨stockTable.explicitColumns, [], stockSql⟩ ∧
      ∃ elements, tableElements? .mssql stockSql = some elements ∧
        primaryKeys elements = [["shelf, no".toList, "day".toList]] := by
  have hplan : planCreateTable (shop .mssql) stockTable =
      .ok ⟨stockTable.explicitColumns, [], stockSql⟩ :=
    eq_ok_of_toOption (by decide +kernel)
  obtain ⟨columns, constraints, helements, -, -, hkeys⟩ :=
    planCreateTable_primaryKeys hplan isReadable_stockTable
  exact ⟨hplan, columns ++ constraints, helements, hkeys⟩

/-- A table with a column that counts up and a key of another column. -/
def countedTable : CreateTableArgs where
  table := "t"
  explicitColumns :=
    [{ name := "n", explicitType := some "int", isAutoIncrement := true },
     { name := "code", explicitType := some "int", isPrimaryKey := true }]

/-- A column whose type by name declares it to be the key. -/
def namedKeyTable : CreateTableArgs where
  table := "t"
  explicitColumns := [.ofName "n" "int PRIMARY KEY"]

/-- On SQLite the column that counts up is the key, and not the one that is asked for; and on any
dialect a key can be declared by the name of a type. -/
theorem createTable_key_not_asked_for :
    (∃ plan elements, planCreateTable (shop .sqlite) countedTable = .ok plan ∧
      (plan.columns.filter ColumnRequest.isPrimaryKey).map ColumnRequest.name = ["code"] ∧
      tableElements? .sqlite plan.sql = some elements ∧ primaryKeys elements = [["n".toList]]) ∧
    ∃ plan elements, planCreateTable (shop .mssql) namedKeyTable = .ok plan ∧
      plan.columns.filter ColumnRequest.isPrimaryKey = [] ∧
      tableElements? .mssql plan.sql = some elements ∧ primaryKeys elements = [["n".toList]] := by
  constructor
  · have hplan : planCreateTable (shop .sqlite) countedTable =
        .ok ⟨countedTable.explicitColumns, [],
          "CREATE TABLE \x22t\x22(\n\x22n\x22 INTEGER NULL PRIMARY KEY AUTOINCREMENT,\n" ++
            "\x22code\x22 int NOT NULL\n)"⟩ :=
      eq_ok_of_toOption (by decide +kernel)
    exact ⟨_, [.column "n".toList true false, .column "code".toList false true], hplan, rfl,
      by decide +kernel, rfl⟩
  · have hplan : planCreateTable (shop .mssql) namedKeyTable =
        .ok ⟨namedKeyTable.explicitColumns, [],
          "CREATE TABLE [shop]..[t](\n[n] int PRIMARY KEY NULL\n)"⟩ :=
      eq_ok_of_toOption (by decide +kernel)
    exact ⟨_, [.column "n".toList true false], hplan, rfl, by decide +kernel, rfl⟩

end SqlDialects
