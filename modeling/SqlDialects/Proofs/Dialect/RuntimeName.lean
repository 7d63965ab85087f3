import SqlDialects.Dialect.Alias
import SqlDialects.Proofs.Dialect.QualifiedName
import SqlDialects.Proofs.Dialect.Scanning

/-!
# Names that read back

The simple name of an expression is its alias, or else the last part of a qualified name.  Both are
looked for by reading the expression from left to right, and quoted text is passed over.  So it does
not matter what a name holds: written between quotes, it is found again.

* `runtimeName_wrap` — a name between quotes reads back, in every style whose marks are no white
  space.
* `runtimeName_withAlias` — an alias reads back, whatever stands before it, as long as that ends the
  quotations it begins.
* `runtimeName_qualify` — the last part of a qualified name reads back: no alias is found, since
  outside of its quotes there are points only, and behind the last of them stands the name.
-/

set_option autoImplicit false

namespace SqlDialects

open Text

namespace Quotes

variable {q : Quotes}

/-! ## One quoted name -/

theorem afterLastAs_quote_append (found : Option Chars) (name : Chars) {rest : Chars}
    (hrest : rest.head? ≠ some q.closeMark) :
    q.afterLastAs false found (q.quote name ++ rest) = q.afterLastAs false found rest := by
  rw [quote, List.append_assoc, List.singleton_append, List.cons_append, afterLastAs, if_pos rfl,
    afterLastAs_quoted, afterQuoted_doubleMarks name hrest, Option.bind_some]

theorem afterLastAs_quote (found : Option Chars) (name : Chars) :
    q.afterLastAs false found (q.quote name) = found := by
  have h : q.afterLastAs false found (q.quote name ++ []) = q.afterLastAs false found [] :=
    afterLastAs_quote_append found name (by simp)
  rwa [List.append_nil, afterLastAs] at h

theorem lastSegmentFrom_quote (separator last name : Chars) :
    q.lastSegmentFrom separator false last (q.quote name) = last := by
  rw [quote, List.cons_append, lastSegmentFrom, if_pos rfl, lastSegmentFrom_quoted,
    afterQuoted_doubleMarks name (by simp)]
  simp only [lastSegmentFrom]

/-- A name between quotes can be cut out by its bytes, since it has a mark on either side. -/
theorem unquote?_quote (hmarks : q.HasSolidMarks) (name : Chars) :
    q.unquote? (q.quote name) = some name := by
  have hboth : q.HasBothMarks (q.quote name) := ⟨q.doubleMarks name, rfl⟩
  rw [unquote?_eq, trim_quote hmarks, if_neg fun hlone => hlone.not_hasBothMarks hboth,
    unquote_quote hmarks]

theorem isSingleName_quote (name : Chars) : q.isSingleName (q.quote name) = true := by
  rw [quote, List.cons_append, isSingleName, if_pos rfl, afterQuoted_doubleMarks name (by simp)]
  rfl

end Quotes

namespace QueryStyle

variable {style : QueryStyle} {name text : String}

/-- A name that is read from between quotes can be cut out by its bytes. -/
theorem runtimeName?_of_namePart (hmarks : style.quotes.HasSolidMarks)
    (hpart : style.namePart text = style.quotes.quote name.toList) :
    style.runtimeName? text = some name := by
  rw [runtimeName?, hpart, Quotes.unquote?_quote hmarks, Option.map_some, String.ofList_toList]

theorem runtimeName_of_alias (hmarks : style.quotes.HasSolidMarks)
    (halias : style.quotes.trailingAlias text.toList = some (style.quotes.quote name.toList)) :
    style.runtimeName text = name := by
  rw [runtimeName, namePart, halias]
  simp [Quotes.unquote_quote hmarks]

theorem runtimeName_of_lastSegment (hmarks : style.quotes.HasSolidMarks)
    (halias : style.quotes.trailingAlias text.toList = none)
    (hlast : style.quotes.lastSegment style.separator.toList (trim text.toList) =
      style.quotes.quote name.toList) : style.runtimeName text = name := by
  rw [runtimeName, namePart, halias, hlast]
  simp [Quotes.unquote_quote hmarks]

/-- **A name between quotes** is one quotation, whose marks are the first and the last character,
and it reads back, whichever way it is read, by its characters or by its bytes. -/
theorem runtimeName_wrap (hmarks : style.quotes.HasSolidMarks) (h : style.wrap name = .ok text) :
    (∃ body, text.toList = style.quotes.openMark :: body ∧
      style.quotes.afterQuoted body = some []) ∧
    (style.runtimeName text = name ∧ style.runtimeName? text = some name) ∧
    (style.unquote text = name ∧ style.unquote? text = some name) ∧
    style.quotes.unquote (style.quotes.quote name.toList) = name.toList ∧
    style.quotes.unquote? (style.quotes.quote name.toList) = some name.toList := by
  have htext := wrap_eq_ok h
  have halias : style.quotes.trailingAlias text.toList = none := by
    rw [Quotes.trailingAlias, htext, Quotes.trim_quote hmarks, Quotes.afterLastAs_quote]
    rfl
  have hlast : style.quotes.lastSegment style.separator.toList (trim text.toList) =
      style.quotes.quote name.toList := by
    rw [htext, Quotes.trim_quote hmarks, Quotes.lastSegment, Quotes.lastSegmentFrom_quote]
  refine ⟨⟨_, htext, Quotes.afterQuoted_doubleMarks _ (by simp)⟩, ⟨?_, ?_⟩, ⟨?_, ?_⟩,
    Quotes.unquote_quote hmarks _, Quotes.unquote?_quote hmarks _⟩
  · exact runtimeName_of_lastSegment hmarks halias hlast
  · exact runtimeName?_of_namePart hmarks (by rw [namePart, halias, hlast])
  · rw [unquote, htext, Quotes.unquote_quote hmarks, String.ofList_toList]
  · rw [unquote?, htext, Quotes.unquote?_quote hmarks, Option.map_some, String.ofList_toList]

/-- Marks of two bytes each, of which the name holds some, and a word that looks like syntax. -/
theorem runtimeName_wrap_equal_marks :
    ∃ style : QueryStyle, style.quotes = ⟨'é', 'é'⟩ ∧ style.quotes.HasSolidMarks ∧
      style.wrap " é as éa" = .ok "é éé as ééaé" ∧
      style.runtimeName "é éé as ééaé" = " é as éa" ∧
      style.runtimeName? "é éé as ééaé" = some " é as éa" := by
  refine ⟨{ Dialect.mssql.style with quotes := ⟨'é', 'é'⟩, separator := "::" }, rfl, by decide,
    rfl, ?_⟩
  exact (runtimeName_wrap (by decide) rfl).2.1

end QueryStyle

/-! ## Aliases -/

theorem hasSolidMarks_quotes (dialect : Dialect) : dialect.style.quotes.HasSolidMarks := by
  cases dialect <;> decide

/-- In the dialects, whose marks are of one byte, it is the same to read by characters and by
bytes. -/
theorem Dialect.reads_iff (dialect : Dialect) {text name : String} :
    dialect.style.runtimeName text = name ∧ dialect.style.runtimeName? text = some name ↔
      dialect.style.runtimeName text = name := by
  rw [dialect.runtimeName?_eq_some, Option.some.injEq, and_self]

theorem toList_separator (dialect : Dialect) : dialect.style.separator.toList = ['.'] := by
  cases dialect <;> rfl

namespace Quotes

variable {q : Quotes}

theorem afterAs?_eq_none {c : Char} (hblank : isBlank c = false) (hc : c.toLower ≠ 'a')
    (s : Chars) : afterAs? (' ' :: c :: s) = none := by
  have htrim : trimStart (' ' :: c :: s) = c :: s := by
    rw [trimStart, List.dropWhile_cons_of_pos (by decide),
      List.dropWhile_cons_of_neg (by simp [hblank])]
  rw [afterAs?, htrim]
  split
  · next heq =>
    obtain ⟨rfl, -⟩ := List.cons.inj heq
    rw [if_neg (by simp [hc])]
  · rfl

/-- The last `as` of an expression with an alias is the one before the alias. -/
theorem afterLastAs_alias (dialect : Dialect) (found : Option Chars) (name : Chars) :
    dialect.style.quotes.afterLastAs false found
        (dialect.style.aliasJoin.toList ++ dialect.style.quotes.quote name) =
      some (dialect.style.quotes.quote name) := by
  have hjoin : dialect.style.aliasJoin.toList = [' ', 'A', 'S', ' '] := by cases dialect <;> rfl
  have hopen : ' ' ≠ dialect.style.quotes.openMark ∧ 'A' ≠ dialect.style.quotes.openMark ∧
      'S' ≠ dialect.style.quotes.openMark ∧ dialect.style.quotes.openMark.toLower ≠ 'a' := by
    cases dialect <;> decide
  have hblank := (hasSolidMarks_quotes dialect).1
  have hquote : afterAs? (' ' :: dialect.style.quotes.quote name) = none :=
    afterAs?_eq_none hblank hopen.2.2.2 _
  have hjoined : afterAs? ([' ', 'A', 'S', ' '] ++ dialect.style.quotes.quote name) =
      some (dialect.style.quotes.quote name) := by
    have htrim : trimStart (dialect.style.quotes.quote name) = dialect.style.quotes.quote name :=
      List.dropWhile_cons_of_neg (by simp [hblank])
    exact congrArg some htrim
  rw [hjoin]
  simp only [List.cons_append, List.nil_append] at hjoined ⊢
  rw [afterLastAs, if_neg hopen.1, hjoined, afterLastAs, if_neg hopen.2.1, afterLastAs,
    if_neg hopen.2.2.1, afterLastAs, if_neg hopen.1, hquote, afterLastAs_quote]
  rfl

end Quotes

/-- **An alias reads back**, whatever it holds, and whatever the expression before it holds that is
not blank and ends the quotations it begins.  It can be cut out by its bytes. -/
theorem runtimeName_withAlias {dialect : Dialect} {expression name wrapped : String}
    (hname : dialect.style.wrap name = .ok wrapped)
    (hblank : isBlankText expression = false)
    (hclosed : dialect.style.quotes.ClosesAll expression.toList) :
    ∃ text, dialect.style.withAlias expression name = .ok text ∧
      dialect.style.runtimeName text = name ∧ dialect.style.runtimeName? text = some name := by
  have hmarks := hasSolidMarks_quotes dialect
  have htext : dialect.style.withAlias expression name =
      .ok (expression ++ dialect.style.aliasJoin ++ wrapped) := by
    rw [QueryStyle.withAlias, hname]
    rfl
  refine ⟨_, htext, dialect.reads_iff.mpr (QueryStyle.runtimeName_of_alias hmarks ?_)⟩
  have htrim : trim (expression ++ dialect.style.aliasJoin ++ wrapped).toList =
      trimStart expression.toList ++
        (dialect.style.aliasJoin.toList ++ dialect.style.quotes.quote name.toList) := by
    rw [String.toList_append, String.toList_append, QueryStyle.wrap_eq_ok hname,
      Quotes.trim_append_quote hmarks, trimStart_append hblank, List.append_assoc]
  have hhead : (dialect.style.aliasJoin.toList ++ dialect.style.quotes.quote name.toList).head? ≠
      some dialect.style.quotes.closeMark := by
    cases dialect <;> simp [Dialect.style]
  obtain ⟨found, hfound⟩ :=
    (Quotes.closesAll_trimStart hmarks.1 hclosed).afterLastAs_append hhead none
  rw [Quotes.trailingAlias, htrim, hfound, Quotes.afterLastAs_alias, Option.filter_some,
    if_pos (Quotes.isSingleName_quote _)]

/-- An `as` within quotes, one outside of them, and white space at both ends; the alias has all of
this too. -/
theorem runtimeName_withAlias_bob :
    Dialect.mssql.style.wrap " Bob] as [b " = .ok "[ Bob]] as [b ]" ∧
    Dialect.mssql.style.quotes.ClosesAll " MAX([x as y]]z]) as [q] ".toList ∧
    ∃ text, Dialect.mssql.style.withAlias " MAX([x as y]]z]) as [q] " " Bob] as [b " = .ok text ∧
      Dialect.mssql.style.runtimeName text = " Bob] as [b " ∧
      Dialect.mssql.style.runtimeName? text = some " Bob] as [b " := by
  have hclosed : Dialect.mssql.style.quotes.ClosesAll " MAX([x as y]]z]) as [q] ".toList := by
    have hblank : Dialect.mssql.style.quotes.ClosesAll [' '] :=
      Quotes.closesAll_of_notMem (by decide)
    have hend : Dialect.mssql.style.quotes.ClosesAll ") as [q] ".toList :=
      (Quotes.closesAll_of_notMem (s := ") as ".toList) (by decide)).append (.quoted rfl hblank)
        (by decide)
    exact (Quotes.closesAll_of_notMem (s := " MAX(".toList) (by decide)).append
      (.quoted rfl hend) (by decide)
  exact ⟨rfl, hclosed, runtimeName_withAlias rfl rfl hclosed⟩

/-! ## Qualified names -/

namespace Quotes

variable {q : Quotes} {gaps : Bool}

theorem IsNameSequence.append {s t : Chars} (hs : q.IsNameSequence gaps s)
    (ht : q.IsNameSequence gaps t) : q.IsNameSequence gaps (s ++ '.' :: t) := by
  induction hs with
  | name h => exact .point h ht
  | point h _ ih =>
    rw [List.append_assoc, List.cons_append]
    exact .point h ih
  | gap hgaps h _ ih =>
    rw [List.append_assoc, List.cons_append, List.cons_append]
    exact .gap hgaps h ih

theorem head?_point_ne (hq : q.SparesPoints) (s : Chars) :
    ('.' :: s).head? ≠ some q.closeMark := fun h => hq.2 (Option.some.inj h).symm

theorem IsNameSequence.closesAll (hq : q.SparesPoints) {s : Chars}
    (h : q.IsNameSequence gaps s) : q.ClosesAll s := by
  induction h with
  | name h => exact h.closesAll
  | point h _ ih => exact h.closesAll.append (.plain hq.1.symm ih) (head?_point_ne hq _)
  | gap _ h _ ih =>
    exact h.closesAll.append (.plain hq.1.symm (.plain hq.1.symm ih)) (head?_point_ne hq _)

theorem afterLastAs_point (hq : q.SparesPoints) (found : Option Chars) (s : Chars) :
    q.afterLastAs false found ('.' :: s) = q.afterLastAs false found s := by
  rw [afterLastAs, if_neg hq.1.symm]
  rfl

/-- **A sequence of names** has no alias. -/
theorem IsNameSequence.afterLastAs_eq (hq : q.SparesPoints) {s : Chars}
    (h : q.IsNameSequence gaps s) (found : Option Chars) :
    q.afterLastAs false found s = found := by
  induction h with
  | name h =>
    obtain ⟨name, rfl⟩ := isName_iff_exists_quote.mp h
    exact afterLastAs_quote found name
  | point h _ ih =>
    obtain ⟨name, rfl⟩ := isName_iff_exists_quote.mp h
    rw [afterLastAs_quote_append found name (head?_point_ne hq _), afterLastAs_point hq, ih]
  | gap _ h _ ih =>
    obtain ⟨name, rfl⟩ := isName_iff_exists_quote.mp h
    rw [afterLastAs_quote_append found name (head?_point_ne hq _), afterLastAs_point hq,
      afterLastAs_point hq, ih]

/-- **The last segment** is the name behind the last point. -/
theorem ClosesAll.lastSegment_quote (hq : q.SparesPoints) {s : Chars} (hs : q.ClosesAll s)
    (name : Chars) : q.lastSegment ['.'] (s ++ '.' :: q.quote name) = q.quote name := by
  obtain ⟨last, hlast⟩ := hs.lastSegmentFrom_append (head?_point_ne hq (q.quote name)) ['.']
    (s ++ '.' :: q.quote name)
  rw [lastSegment, hlast, lastSegmentFrom, if_neg hq.1.symm]
  exact lastSegmentFrom_quote _ _ _

/-- The text ends in the quoted name, which is all of it or stands behind a point. -/
def EndsIn (q : Quotes) (name text : Chars) : Prop :=
  text = q.quote name ∨ ∃ s, q.ClosesAll s ∧ text = s ++ '.' :: q.quote name

theorem isNameSequence_intercalate (hq : q.SparesPoints) {separator : Chars}
    (hsep : IsSeparator gaps separator) {parts : List Chars} (hne : parts ≠ [])
    (h : ∀ part ∈ parts, q.IsName part) :
    q.IsNameSequence gaps (separator.intercalate parts) := by
  refine (isNameSequence_intercalate_iff hq hsep hne fun part hpart => ?_).mpr
    (partsFit_of_forall hne fun part hpart => .name (h part hpart))
  obtain ⟨name, rfl⟩ := isName_iff_exists_quote.mp (h part hpart)
  exact isEnclosed_quote name

theorem intercalate_concat (separator last : Chars) {parts : List Chars} (hne : parts ≠ []) :
    separator.intercalate (parts ++ [last]) =
      separator.intercalate parts ++ (separator ++ last) := by
  induction parts with
  | nil => exact absurd rfl hne
  | cons first rest ih =>
    cases rest with
    | nil => simp
    | cons second rest =>
      rw [List.cons_append, List.cons_append, List.intercalate_cons_cons, ← List.cons_append,
        ih (List.cons_ne_nil _ _), List.intercalate_cons_cons]
      simp only [List.append_assoc]

theorem endsIn_intercalate (hq : q.SparesPoints) {separator : Chars}
    (hsep : IsSeparator gaps separator) {parts : List Chars} (h : ∀ part ∈ parts, q.IsName part)
    (name : Chars) : q.EndsIn name (separator.intercalate (parts ++ [q.quote name])) := by
  by_cases hne : parts = []
  · exact .inl (by simp [hne])
  have hclosed := (isNameSequence_intercalate hq hsep hne h).closesAll hq
  rw [intercalate_concat separator _ hne]
  rcases hsep with rfl | ⟨-, rfl⟩
  · exact .inr ⟨_, hclosed, rfl⟩
  · exact .inr ⟨_, hclosed.append (.plain hq.1.symm .nil) (head?_point_ne hq []), by simp⟩

end Quotes

/-- A sequence of names reads back as the last of them. -/
theorem runtimeName_of_isNameSequence {dialect : Dialect} {gaps : Bool} {name text : String}
    (hseq : dialect.style.quotes.IsNameSequence gaps text.toList)
    (hname : dialect.style.quotes.EndsIn name.toList text.toList) :
    dialect.style.runtimeName text = name := by
  have hmarks := hasSolidMarks_quotes dialect
  have hpoints := sparesPoints_quotes dialect
  have htrim : trim text.toList = text.toList := by
    refine Quotes.trim_of_isEnclosed hmarks ⟨hseq.head?_eq, ?_⟩
    rcases hname with htext | ⟨s, -, htext⟩
    · exact htext ▸ (Quotes.isEnclosed_quote _).2
    · rw [htext, List.getLast?_append, List.getLast?_cons, (Quotes.isEnclosed_quote _).2]
      rfl
  apply QueryStyle.runtimeName_of_lastSegment hmarks
  · rw [Quotes.trailingAlias, htrim, hseq.afterLastAs_eq hpoints]
    rfl
  · rw [htrim, toList_separator]
    rcases hname with htext | ⟨s, hs, htext⟩
    · rw [htext, Quotes.lastSegment, Quotes.lastSegmentFrom_quote]
    · rw [htext, hs.lastSegment_quote hpoints]

namespace QueryStyle

variable {style : QueryStyle} {name database table : String} {schema : Option String}

/-- A name as it is spelled: it can be quoted, no white space stands around it, and it does not
both begin with an opening mark and end with a closing one. -/
structure IsBareName (style : QueryStyle) (name : String) : Prop where
  accepted : ∃ text, style.wrap name = .ok text
  tight : trimmed name = name
  bare : ¬(name.toList.head? = some style.quotes.openMark ∧
    name.toList.getLast? = some style.quotes.closeMark)

theorem IsBareName.looksQuoted_eq (h : style.IsBareName name) :
    style.quotes.looksQuoted name.toList = false := by
  rw [Bool.eq_false_iff]
  intro hq
  simp only [Quotes.looksQuoted, Bool.and_eq_true, beq_iff_eq] at hq
  exact h.bare ⟨hq.1.2, hq.2⟩

theorem IsBareName.exists_ensureWrapped (h : style.IsBareName name) :
    ∃ text, style.ensureWrapped name = .ok text := by
  simp only [ensureWrapped, h.tight, h.looksQuoted_eq, Bool.false_eq_true, if_false]
  exact h.accepted

theorem IsBareName.written_eq (h : style.IsBareName name) :
    style.written name = style.quotes.quote name.toList := by
  have htrim : trim name.toList = name.toList := by
    rw [← String.toList_ofList (l := trim name.toList)]
    exact congrArg String.toList h.tight
  rw [written, htrim, h.looksQuoted_eq, if_neg Bool.false_ne_true]

theorem getLast?_tableParts (style : QueryStyle) (database : String) (schema : Option String)
    (table : String) : (style.tableParts database schema table).getLast? = some table := by
  rw [tableParts]
  split <;> simp

end QueryStyle

open QueryStyle in
theorem isBareName_tableParts {dialect : Dialect} {database table : String}
    {schema : Option String}
    (hdatabase : isBlankText database = true ∨ dialect.style.IsBareName database)
    (hschema : ∀ name ∈ schema, dialect.style.IsBareName name)
    (htable : dialect.style.IsBareName table) :
    ∀ part ∈ dialect.style.tableParts database schema table, dialect.style.IsBareName part := by
  have hd : ∀ part ∈ givenDatabase database, dialect.style.IsBareName part := by
    rw [givenDatabase]
    split
    · simp
    · next hblank => simpa using hdatabase.resolve_left hblank
  have hs : ∀ part ∈ givenSchema? schema, dialect.style.IsBareName part := by
    intro part hpart
    obtain ⟨name, hname, rfl⟩ := Option.map_eq_some_iff.mp (Option.mem_filter_iff.mp hpart).1
    exact (hschema name hname).tight.symm ▸ hschema name hname
  cases dialect with
  | mssql =>
    simp only [QueryStyle.tableParts, Dialect.style, List.forall_mem_append,
      List.forall_mem_singleton]
    exact ⟨⟨hd, fun part hpart => hs part (Option.mem_toList.mp hpart)⟩, htable⟩
  | postgres =>
    -- the schema of its own is a name like any other
    have hpublic : Dialect.postgres.style.IsBareName "public" :=
      ⟨⟨_, rfl⟩, rfl, by decide⟩
    simp only [QueryStyle.tableParts, Dialect.style, List.forall_mem_append, List.forall_mem_cons]
    refine ⟨hd, ?_, htable, by simp⟩
    cases hschema : givenSchema? schema with
    | none => exact hpublic
    | some name => exact hs name hschema
  | mysql | oracle =>
    simp only [QueryStyle.tableParts, Dialect.style, List.forall_mem_append,
      List.forall_mem_singleton]
    exact ⟨hd, htable⟩
  | sqlite =>
    simp only [QueryStyle.tableParts, Dialect.style, List.forall_mem_singleton]
    exact htable

/-- **A qualified table** of bare names is a sequence of names that ends in the table. -/
theorem exists_qualifyTable_endsIn {dialect : Dialect} {database table : String}
    {schema : Option String}
    (h : ∀ part ∈ dialect.style.tableParts database schema table, dialect.style.IsBareName part) :
    ∃ text, dialect.style.qualifyTable database schema table = .ok text ∧
      dialect.style.quotes.IsNameSequence dialect.leavesGaps text.toList ∧
      dialect.style.quotes.EndsIn table.toList text.toList := by
  obtain ⟨text, htext⟩ := QueryStyle.exists_qualifyTable fun part hpart =>
    (h part hpart).exists_ensureWrapped
  have hpoints := sparesPoints_quotes dialect
  have hseparator := isSeparator_partSeparator dialect database schema
  obtain ⟨front, hfront⟩ := List.getLast?_eq_some_iff.mp
    (QueryStyle.getLast?_tableParts dialect.style database schema table)
  rw [hfront, List.forall_mem_append, List.forall_mem_singleton] at h
  have hnames : ∀ part ∈ front.map dialect.style.written, dialect.style.quotes.IsName part := by
    rw [List.forall_mem_map]
    exact fun name hname => Quotes.isName_iff_exists_quote.mpr ⟨_, (h.1 name hname).written_eq⟩
  have hlist : text.toList = (dialect.style.partSeparator database schema).intercalate
      (front.map dialect.style.written ++ [dialect.style.quotes.quote table.toList]) := by
    rw [QueryStyle.qualifyTable_eq_ok htext, hfront, List.map_append, List.map_singleton,
      h.2.written_eq]
  refine ⟨text, htext, ?_, ?_⟩
  · rw [hlist]
    refine Quotes.isNameSequence_intercalate hpoints hseparator (by simp) ?_
    rw [List.forall_mem_append, List.forall_mem_singleton]
    exact ⟨hnames, Quotes.isName_iff_exists_quote.mpr ⟨_, rfl⟩⟩
  · rw [hlist]
    exact Quotes.endsIn_intercalate hpoints hseparator hnames _

/-- A column behind a point reads back, whatever sequence of names stands before the point. -/
theorem exists_runtimeName_column {dialect : Dialect} {gaps : Bool} {front column : String}
    (hfront : dialect.style.quotes.IsNameSequence gaps front.toList)
    (hcolumn : dialect.style.IsBareName column) :
    ∃ written, dialect.style.ensureWrapped column = .ok written ∧
      dialect.style.runtimeName (front ++ dialect.style.separator ++ written) = column := by
  obtain ⟨written, hwritten⟩ := hcolumn.exists_ensureWrapped
  have hlist : (front ++ dialect.style.separator ++ written).toList =
      front.toList ++ '.' :: dialect.style.quotes.quote column.toList := by
    rw [String.toList_append, String.toList_append, toList_separator,
      QueryStyle.ensureWrapped_eq_ok hwritten, hcolumn.written_eq, List.append_assoc,
      List.singleton_append]
  have hseq : dialect.style.quotes.IsNameSequence gaps
      (front ++ dialect.style.separator ++ written).toList := by
    rw [hlist]
    exact hfront.append (.name (Quotes.isName_iff_exists_quote.mpr ⟨_, rfl⟩))
  refine ⟨written, hwritten, runtimeName_of_isNameSequence hseq ?_⟩
  exact .inr ⟨_, hfront.closesAll (sparesPoints_quotes dialect), hlist⟩

/-- **A qualified name reads back**: that of a table as the table, and that of a column, of a table
or of a function, as the column.  All of them can be cut out by their bytes. -/
theorem runtimeName_qualify {dialect : Dialect} {database table column : String}
    {schema : Option String}
    (hdatabase : isBlankText database = true ∨ dialect.style.IsBareName database)
    (hschema : ∀ name ∈ schema, dialect.style.IsBareName name)
    (htable : dialect.style.IsBareName table) (hcolumn : dialect.style.IsBareName column) :
    (∃ text, dialect.style.qualifyTable database schema table = .ok text ∧
      dialect.style.runtimeName text = table ∧ dialect.style.runtimeName? text = some table) ∧
    (∃ text, dialect.style.qualifyColumn database schema table column = .ok text ∧
      dialect.style.runtimeName text = column ∧ dialect.style.runtimeName? text = some column) ∧
    ∃ text, dialect.style.qualifyFunctionColumn table column = .ok text ∧
      dialect.style.runtimeName text = column ∧ dialect.style.runtimeName? text = some column := by
  obtain ⟨text, htext, hseq, hends⟩ :=
    exists_qualifyTable_endsIn (isBareName_tableParts hdatabase hschema htable)
  simp only [dialect.reads_iff]
  refine ⟨⟨text, htext, runtimeName_of_isNameSequence hseq hends⟩, ?_, ?_⟩
  · obtain ⟨written, hwritten, hread⟩ := exists_runtimeName_column hseq hcolumn
    refine ⟨_, ?_, hread⟩
    rw [QueryStyle.qualifyColumn, htext, hwritten]
    rfl
  · obtain ⟨function, hfunction⟩ := htable.exists_ensureWrapped
    have hname : dialect.style.quotes.IsNameSequence false function.toList := by
      rw [QueryStyle.ensureWrapped_eq_ok hfunction, htable.written_eq]
      exact .name (Quotes.isName_iff_exists_quote.mpr ⟨_, rfl⟩)
    obtain ⟨written, hwritten, hread⟩ := exists_runtimeName_column hname hcolumn
    refine ⟨_, ?_, hread⟩
    rw [QueryStyle.qualifyFunctionColumn, hfunction, hwritten]
    rfl

/-- Names with marks, blanks and words that look like syntax. -/
theorem runtimeName_qualify_brackets :
    Dialect.mssql.style.IsBareName "my shop" ∧ Dialect.mssql.style.IsBareName "a]b as [c" ∧
    Dialect.mssql.style.IsBareName "[x as y" ∧
    (∃ text, Dialect.mssql.style.qualifyTable "my shop" none "a]b as [c" = .ok text ∧
      Dialect.mssql.style.runtimeName text = "a]b as [c" ∧
      Dialect.mssql.style.runtimeName? text = some "a]b as [c") ∧
    (∃ text, Dialect.mssql.style.qualifyColumn "my shop" none "a]b as [c" "[x as y" = .ok text ∧
      Dialect.mssql.style.runtimeName text = "[x as y" ∧
      Dialect.mssql.style.runtimeName? text = some "[x as y") ∧
    ∃ text, Dialect.mssql.style.qualifyFunctionColumn "a]b as [c" "[x as y" = .ok text ∧
      Dialect.mssql.style.runtimeName text = "[x as y" ∧
      Dialect.mssql.style.runtimeName? text = some "[x as y" := by
  have hdatabase : Dialect.mssql.style.IsBareName "my shop" := ⟨⟨_, rfl⟩, rfl, by decide⟩
  have htable : Dialect.mssql.style.IsBareName "a]b as [c" := ⟨⟨_, rfl⟩, rfl, by decide⟩
  have hcolumn : Dialect.mssql.style.IsBareName "[x as y" := ⟨⟨_, rfl⟩, rfl, by decide⟩
  exact ⟨hdatabase, htable, hcolumn, runtimeName_qualify (.inr hdatabase) (by simp) htable hcolumn⟩

end SqlDialects
