import Mathlib.Data.List.Infix
import SqlDialects.Proofs.List
import SqlDialects.Proofs.Sql.Token

/-!
# What a statement says that creates a table

Between its outermost parentheses the statement lists elements, with commas between them.  An
element is the definition of a column, which begins with the name of the column, or a constraint.
Either can declare the primary key: a column declares itself where its definition says
`PRIMARY KEY`, and a constraint of that kind lists the columns of the key.

* `tableElements?` — the elements that a text declares, if it is a statement of this kind.
* `primaryKeys` — the declarations of a primary key among them.
* `hasPhrase_append` — what two parts say together they say apart, unless a phrase begins at the end
  of the first one.
* `tableElements?_eq_some` — how to read a statement of which the parts have been read.
-/

set_option autoImplicit false

namespace SqlDialects

open Text

/-! ## Elements -/

/-- Whether one keyword follows the other. -/
def hasPhrase (first second : String) (tokens : List Token) : Bool :=
  decide ([keyword first, keyword second] <:+: tokens)

/-- An element of a table, as far as keys and null values go. -/
inductive TableElement where
  /-- A column, whether it says that it is the primary key, and whether that it is not null. -/
  | column (name : Chars) (isKey isRequired : Bool)
  | primaryKey (columns : List Chars)
  | otherConstraint
deriving DecidableEq, Repr, Inhabited

/-- Names with commas between them and a parenthesis behind them. -/
def nameList? : List Token → Option (List Chars)
  | [.name n, close] => if close = .mark ')' then some [n] else none
  | .name n :: comma :: rest =>
    if comma = .mark ',' then (nameList? rest).map (n :: ·) else none
  | _ => none

/-- The columns of a primary key constraint. -/
def keyColumns? : List Token → Option (List Chars)
  | first :: second :: bracket :: names =>
    if first = keyword "PRIMARY" ∧ second = keyword "KEY" ∧ bracket = .mark '(' then
      nameList? names
    else none
  | _ => none

/-- Reads an element: the quoted name of a column and its clauses, or a constraint with its name. -/
def tableElement? : List Token → Option TableElement
  | .name n :: clauses =>
    some (.column n (hasPhrase "PRIMARY" "KEY" clauses) (hasPhrase "NOT" "NULL" clauses))
  | first :: .word _ :: clauses =>
    if first = keyword "CONSTRAINT" then
      if hasPhrase "PRIMARY" "KEY" clauses then (keyColumns? clauses).map .primaryKey
      else some .otherConstraint
    else none
  | _ => none

theorem tableElement?_constraint (name : Chars) (clauses : List Token) :
    tableElement? (keyword "CONSTRAINT" :: .word name :: clauses) =
      if hasPhrase "PRIMARY" "KEY" clauses then (keyColumns? clauses).map .primaryKey
      else some .otherConstraint :=
  rfl

/-- Parts the text behind the outermost parenthesis at its commas, up to the parenthesis that
closes it and has to be the end.  `depth` counts the inner parentheses that are open, and `pending`
is what has been read of the element, the last token first. -/
def splitElements? : (depth : Nat) → (pending : List Token) → List Token →
    Option (List (List Token))
  | _, _, [] => none
  | depth, pending, t :: ts =>
    if t = .mark '(' then splitElements? (depth + 1) (t :: pending) ts
    else if t = .mark ')' then
      if depth ≠ 0 then splitElements? (depth - 1) (t :: pending) ts
      else if ts = [] then some [pending.reverse]
      else none
    else if t = .mark ',' ∧ depth = 0 then (splitElements? 0 [] ts).map (pending.reverse :: ·)
    else splitElements? depth (t :: pending) ts

/-- The elements of the table that tokens declare. -/
def elementsOf? : List Token → Option (List TableElement)
  | first :: second :: rest =>
    if first = keyword "CREATE" ∧ second = keyword "TABLE" then
      match rest.dropWhile Token.isNamePart with
      | bracket :: body =>
        if bracket = .mark '(' then (splitElements? 0 [] body).bind (·.mapM tableElement?)
        else none
      | [] => none
    else none
  | _ => none

/-- **The elements of the table that a statement creates.** -/
def tableElements? (dialect : Dialect) (sql : String) : Option (List TableElement) :=
  (readTokens? dialect sql.toList).bind elementsOf?

/-- The columns that an element declares to be the primary key, if it does. -/
def TableElement.key? : TableElement → Option (List Chars)
  | column n isKey _ => if isKey then some [n] else none
  | primaryKey names => some names
  | otherConstraint => none

/-- **The primary keys that are declared**, each with its columns. -/
def primaryKeys (elements : List TableElement) : List (List Chars) :=
  elements.filterMap TableElement.key?

theorem primaryKeys_append (first second : List TableElement) :
    primaryKeys (first ++ second) = primaryKeys first ++ primaryKeys second :=
  List.filterMap_append

theorem primaryKeys_cons_column (name : Chars) (isKey isRequired : Bool)
    (elements : List TableElement) :
    primaryKeys (.column name isKey isRequired :: elements) =
      if isKey then [name] :: primaryKeys elements else primaryKeys elements := by
  cases isKey <;> rfl

/-! ## Phrases -/

section Phrases

variable {first second : String}

theorem hasPhrase_append {s t : List Token} (ht : t.head? ≠ some (keyword second)) :
    hasPhrase first second (s ++ t) = (hasPhrase first second s || hasPhrase first second t) := by
  rw [Bool.eq_iff_iff, Bool.or_eq_true]
  simp only [hasPhrase, decide_eq_true_eq]
  exact pair_infix_append_iff ht

theorem hasPhrase_cons {t : Token} (ht : t ≠ keyword first) (s : List Token) :
    hasPhrase first second (t :: s) = hasPhrase first second s := by
  have hstart : ¬[keyword first, keyword second] <+: t :: s := fun h =>
    ht (List.cons_prefix_cons.mp h).1.symm
  rw [Bool.eq_iff_iff]
  simp only [hasPhrase, decide_eq_true_eq, List.infix_cons_iff, hstart, false_or]

theorem hasPhrase_append_right (s : List Token) {t : List Token}
    (h : hasPhrase first second t = true) : hasPhrase first second (s ++ t) = true :=
  decide_eq_true ((of_decide_eq_true h).trans (List.suffix_append s t).isInfix)

/-- A phrase is not said without its first word. -/
theorem hasPhrase_of_notMem {s : List Token} (h : keyword first ∉ s) :
    hasPhrase first second s = false :=
  decide_eq_false fun hphrase => h (hphrase.subset List.mem_cons_self)

end Phrases

/-! ## Closed parts -/

/-- Whether parentheses are closed just where they were open, without a comma outside of them.
`depth` counts those that are open to begin with. -/
def isClosed : (depth : Nat) → List Token → Bool
  | depth, [] => depth == 0
  | depth, t :: ts =>
    if t = .mark '(' then isClosed (depth + 1) ts
    else if t = .mark ')' then depth != 0 && isClosed (depth - 1) ts
    else (t != .mark ',' || depth != 0) && isClosed depth ts

theorem isClosed_append {depth : Nat} {s : List Token} (hs : isClosed depth s = true)
    (t : List Token) : isClosed depth (s ++ t) = isClosed 0 t := by
  induction s generalizing depth with
  | nil =>
    rw [isClosed, beq_iff_eq] at hs
    rw [hs, List.nil_append]
  | cons c s ih =>
    rw [List.cons_append, isClosed]
    rw [isClosed] at hs
    split_ifs at hs ⊢
    · exact ih hs
    · rw [Bool.and_eq_true] at hs
      rw [hs.1, Bool.true_and, ih hs.2]
    · rw [Bool.and_eq_true] at hs
      rw [hs.1, Bool.true_and, ih hs.2]

/-- Tokens other than parentheses and commas are closed. -/
theorem isClosed_of_forall {s : List Token}
    (h : ∀ t ∈ s, t ≠ .mark '(' ∧ t ≠ .mark ')' ∧ t ≠ .mark ',') : isClosed 0 s = true := by
  induction s with
  | nil => rfl
  | cons t s ih =>
    rw [List.forall_mem_cons] at h
    obtain ⟨⟨hopen, hclose, hcomma⟩, hrest⟩ := h
    rw [isClosed, if_neg hopen, if_neg hclose, ih hrest, bne_iff_ne.mpr hcomma]
    rfl

/-- A closed part is read as a whole. -/
theorem splitElements?_append {depth : Nat} {s : List Token} (hs : isClosed depth s = true)
    (pending t : List Token) :
    splitElements? depth pending (s ++ t) = splitElements? 0 (s.reverse ++ pending) t := by
  induction s generalizing depth pending with
  | nil =>
    rw [isClosed, beq_iff_eq] at hs
    rw [hs]
    rfl
  | cons c s ih =>
    rw [List.cons_append, splitElements?, List.reverse_cons, List.append_assoc,
      List.singleton_append]
    rw [isClosed] at hs
    by_cases hopen : c = .mark '('
    · rw [if_pos hopen] at hs ⊢
      exact ih hs _
    by_cases hclose : c = .mark ')'
    · rw [if_neg hopen, if_pos hclose, Bool.and_eq_true, bne_iff_ne] at hs
      rw [if_neg hopen, if_pos hclose, if_pos hs.1]
      exact ih hs.2 _
    · rw [if_neg hopen, if_neg hclose, Bool.and_eq_true, Bool.or_eq_true, bne_iff_ne,
        bne_iff_ne] at hs
      rw [if_neg hopen, if_neg hclose, if_neg (not_and_or.mpr hs.1)]
      exact ih hs.2 _

/-- **Closed elements** with commas between them and a parenthesis behind them. -/
theorem splitElements?_intercalate {elements : List (List Token)} (hne : elements ≠ [])
    (h : ∀ e ∈ elements, isClosed 0 e = true) :
    splitElements? 0 [] ([Token.mark ','].intercalate elements ++ [.mark ')']) =
      some elements := by
  induction elements with
  | nil => contradiction
  | cons first rest ih =>
    rw [List.forall_mem_cons] at h
    cases rest with
    | nil =>
      rw [List.intercalate_singleton, splitElements?_append h.1, splitElements?, if_neg (by decide),
        if_pos rfl, if_neg (by decide), if_pos rfl, List.append_nil, List.reverse_reverse]
    | cons second rest =>
      rw [List.intercalate_cons_cons, List.append_assoc, List.append_assoc,
        splitElements?_append h.1, List.singleton_append, splitElements?, if_neg (by decide),
        if_neg (by decide), if_pos ⟨rfl, rfl⟩, ih (by simp) h.2, List.append_nil,
        List.reverse_reverse]
      rfl

/-! ## Lists of names -/

/-- Quoted names with commas between them, between parentheses. -/
def quotedGroup (q : Quotes) (names : List Chars) : Chars :=
  '(' :: ([','].intercalate (names.map q.quote) ++ [')'])

/-- The tokens of such a group. -/
def nameGroup (names : List Chars) : List Token :=
  .mark '(' :: ([Token.mark ','].intercalate (names.map fun n => [.name n]) ++ [.mark ')'])

theorem nameList?_intercalate {names : List Chars} (hne : names ≠ []) :
    nameList? ([Token.mark ','].intercalate (names.map fun n => [.name n]) ++ [.mark ')']) =
      some names := by
  induction names with
  | nil => contradiction
  | cons n names ih =>
    cases names with
    | nil => rfl
    | cons m names =>
      have ih := ih (List.cons_ne_nil m names)
      rw [List.map_cons, List.map_cons, List.intercalate_cons_cons, List.append_assoc,
        List.append_assoc, ← List.map_cons (f := fun n => [Token.name n]), List.singleton_append,
        List.singleton_append, nameList?, if_pos rfl, ih]
      · rfl
      · -- behind the comma there is more
        intro h
        rw [h] at ih
        contradiction

theorem isClosed_nameGroup (names : List Chars) : isClosed 0 (nameGroup names) = true := by
  rw [nameGroup, isClosed, if_pos rfl]
  induction names with
  | nil => rfl
  | cons n names ih =>
    cases names with
    | nil => rfl
    | cons m names =>
      rw [List.map_cons, List.map_cons, List.intercalate_cons_cons,
        ← List.map_cons (f := fun n => [Token.name n])]
      exact ih

/-- What stands between the parentheses are names and commas. -/
theorem keyword_notMem_nameGroup (word : String) (names : List Chars) :
    keyword word ∉ nameGroup names := by
  have hlist : keyword word ∉ [Token.mark ','].intercalate (names.map fun n => [Token.name n]) := by
    induction names with
    | nil => exact List.not_mem_nil
    | cons n names ih =>
      cases names with
      | nil => simp [keyword]
      | cons m names =>
        rw [List.map_cons, List.map_cons, List.intercalate_cons_cons,
          ← List.map_cons (f := fun n => [Token.name n])]
        simpa [keyword] using ih
  simpa [nameGroup, keyword] using hlist

theorem readTokens?_quotedGroup {dialect : Dialect} (names : List Chars) :
    readTokens? dialect (quotedGroup dialect.style.quotes names) = some (nameGroup names) := by
  have hnames : List.Forall₂ (fun item ts => readTokens? dialect item = some ts)
      (names.map dialect.style.quotes.quote) (names.map fun n => [Token.name n]) := by
    rw [List.forall₂_map_left_iff, List.forall₂_map_right_iff, List.forall₂_same]
    exact fun n _ => readTokens?_quote n
  have hclose : readTokens? dialect [')'] = some [.mark ')'] :=
    readTokens?_cons_mark (by decide) rfl
  refine readTokens?_cons_mark (by decide) ?_
  exact readTokens?_append (standsApart_cons (by decide) _)
    (readTokens?_intercalate rfl hnames) hclose

/-! ## Statements -/

/-- A text that is read as an element of a table. -/
def DeclaresElement (dialect : Dialect) (text : Chars) (element : TableElement) : Prop :=
  ∃ tokens, readTokens? dialect text = some tokens ∧ isClosed 0 tokens = true ∧
    tableElement? tokens = some element

theorem mapM_tableElement? {dialect : Dialect} {texts : List Chars} {elements : List TableElement}
    (h : List.Forall₂ (DeclaresElement dialect) texts elements) :
    ∃ tokens, List.Forall₂ (fun text ts => readTokens? dialect text = some ts) texts tokens ∧
      (∀ ts ∈ tokens, isClosed 0 ts = true) ∧ tokens.mapM tableElement? = some elements := by
  induction h with
  | nil => exact ⟨[], .nil, by simp, rfl⟩
  | cons hfirst _ ih =>
    obtain ⟨ts, hread, hclosed, helement⟩ := hfirst
    obtain ⟨tokens, htokens, hall, helements⟩ := ih
    refine ⟨ts :: tokens, .cons hread htokens, List.forall_mem_cons.mpr ⟨hclosed, hall⟩, ?_⟩
    rw [List.mapM_cons, helement, helements]
    rfl

/-- **A statement of which the parts can be read.** -/
theorem tableElements?_eq_some {dialect : Dialect} {table : Chars} {texts : List Chars}
    {elements : List TableElement} {gaps : Bool}
    (htable : dialect.style.quotes.IsNameSequence gaps table) (hne : texts ≠ [])
    (h : List.Forall₂ (DeclaresElement dialect) texts elements) {sql : String}
    (hsql : sql.toList = "CREATE TABLE".toList ++ ' ' :: (table ++ '(' :: '\n' ::
      ([',', '\n'].intercalate texts ++ ['\n', ')']))) :
    tableElements? dialect sql = some elements := by
  obtain ⟨names, hnames, hparts⟩ := htable.readTokens?
  obtain ⟨tokens, htokens, hclosed, helements⟩ := mapM_tableElement? h
  have htokensNe : tokens ≠ [] := by
    rintro rfl
    exact hne (List.forall₂_nil_right_iff.mp htokens)
  have hcreate : readTokens? dialect "CREATE TABLE".toList =
      some [keyword "CREATE", keyword "TABLE"] :=
    readTokens?_words (by decide)
  have hend : readTokens? dialect ['\n', ')'] = some [.mark ')'] :=
    (readTokens?_blanks (show allBlank ['\n'] = true from rfl) _).trans
      (readTokens?_cons_mark (by decide) rfl)
  have hbody : readTokens? dialect ('(' :: '\n' ::
      ([',', '\n'].intercalate texts ++ ['\n', ')'])) =
      some (.mark '(' :: ([Token.mark ','].intercalate tokens ++ [.mark ')'])) := by
    refine readTokens?_cons_mark (by decide) ?_
    refine (readTokens?_blanks (show allBlank ['\n'] = true from rfl) _).trans ?_
    exact readTokens?_append (standsApart_cons (by decide) _)
      (readTokens?_intercalate rfl htokens) hend
  have hread : readTokens? dialect sql.toList =
      some ([keyword "CREATE", keyword "TABLE"] ++ (names ++
        .mark '(' :: ([Token.mark ','].intercalate tokens ++ [.mark ')']))) := by
    rw [hsql]
    refine readTokens?_append (standsApart_cons (by decide) _) hcreate ?_
    rw [readTokens?_cons_blank]
    exact readTokens?_append (standsApart_cons (by decide) _) hnames hbody
  -- the name of the table has no bracket in it, so the first one opens the elements
  have hdrop (body : List Token) : (names ++ Token.mark '(' :: body).dropWhile Token.isNamePart =
      Token.mark '(' :: body := by
    rw [List.dropWhile_append_of_pos hparts, List.dropWhile_cons_of_neg (by decide)]
  rw [tableElements?, hread, Option.bind_some, List.cons_append, List.cons_append, List.nil_append,
    elementsOf?, if_pos ⟨rfl, rfl⟩, hdrop]
  simp only [if_true]
  rw [splitElements?_intercalate htokensNe hclosed, Option.bind_some, helements]

end SqlDialects
