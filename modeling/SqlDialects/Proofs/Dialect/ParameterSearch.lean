import SqlDialects.Dialect.Statement
import SqlDialects.Proofs.Dialect.Parameter

/-!
# Parameters are found again

The parameters of a generated statement are looked for in its text.  Names of tables and columns
stand before them, and these may hold anything, parameters or what looks like the beginning of one
included.  Two facts settle it.

* **A search does not run past a mark.**  What is found before a character that no parameter holds,
  ends before that character (`parametersFrom_suffix`).  So whatever stands before the list of
  parameters, the search comes to its opening parenthesis.
* **A list is found as it is.**  One character parts a parameter from the next, and it is still
  there when the next one is looked for (`parametersFrom_intercalate`).
-/

set_option autoImplicit false

namespace SqlDialects

open Text

variable {mark : Char}

/-! ## One parameter -/

/-- Neither a name nor a word goes on with the character. -/
def EndsName (c : Char) : Prop := isPlain c = false ∧ isWordChar c = false

/-- A parameter in front of a character that ends its name. -/
theorem parameterAt_identifier {name rest : Chars} (hname : IsIdentifier name) {c : Char}
    (hc : EndsName c) : parameterAt mark (mark :: (name ++ c :: rest)) = some (mark :: name) := by
  have htake : (name ++ c :: rest).takeWhile isPlain = name := by
    rw [List.takeWhile_append_of_pos hname.allPlain, List.takeWhile_cons_of_neg (by simp [hc.1]),
      List.append_nil]
  have hdrop : (name ++ c :: rest).dropWhile isPlain = c :: rest := by
    rw [List.dropWhile_append_of_pos hname.allPlain, List.dropWhile_cons_of_neg (by simp [hc.1])]
  have hne : name.isEmpty = false := by simpa using hname.ne_nil
  simp [parameterAt, htake, hdrop, hne, endsWord, hc.2]

/-- **A parameter ends before a character that is not plain.** -/
theorem length_le_of_parameterAt {front rest name : Chars} {c : Char} (hplain : isPlain c = false)
    (hmark : c ≠ mark) (h : parameterAt mark (front ++ c :: rest) = some name) :
    name.length ≤ front.length := by
  cases front with
  | nil => simp [parameterAt, hmark] at h
  | cons d front =>
    simp only [List.cons_append, parameterAt, Option.ite_none_right_eq_some, Option.some.injEq] at h
    obtain ⟨-, rfl⟩ := h
    have hle : ((front ++ c :: rest).takeWhile isPlain).length ≤ front.length := by
      rw [List.takeWhile_append]
      split
      · rw [List.takeWhile_cons_of_neg (by simp [hplain]), List.append_nil]
      · exact (List.takeWhile_sublist isPlain).length_le
    simpa using hle

/-! ## The search -/

/-- The characters of the last parameter are passed over. -/
theorem parametersFrom_skip {s : Chars} (hs : s ≠ []) (atStart : Bool) (rest : Chars) :
    parametersFrom mark s.length atStart (s ++ rest) = parametersFrom mark 0 false rest := by
  induction s generalizing atStart with
  | nil => contradiction
  | cons c s ih =>
    rw [List.cons_append, List.length_cons, parametersFrom]
    cases s with
    | nil => rfl
    | cons d s => exact ih (List.cons_ne_nil d s) false

/-- **A search does not run past a mark**: it comes to a character that no parameter holds, whatever
stands before it. -/
theorem parametersFrom_suffix {front rest : Chars} {c : Char} (hplain : isPlain c = false)
    (hmark : c ≠ mark) {skip : Nat} (hskip : skip ≤ front.length) {atStart : Bool}
    (hstart : front = [] → atStart = false) :
    parametersFrom mark 0 false (c :: rest) <:+
      parametersFrom mark skip atStart (front ++ c :: rest) := by
  induction front generalizing skip atStart with
  | nil =>
    obtain rfl := Nat.le_zero.mp hskip
    rw [hstart rfl]
    exact List.suffix_rfl
  | cons d front ih =>
    have hnext {skip : Nat} (h : skip ≤ front.length) := ih h fun _ => rfl
    cases skip with
    | succ skip => exact hnext (Nat.le_of_succ_le_succ hskip)
    | zero =>
      conv => rhs; rw [List.cons_append, parametersFrom]
      split
      · next name hname =>
        have hat : parameterAt mark ((d :: front) ++ c :: rest) = some name :=
          (Option.ite_none_right_eq_some.mp hname).2
        have hle : name.length ≤ (d :: front).length := length_le_of_parameterAt hplain hmark hat
        exact (hnext (Nat.sub_le_of_le_add hle)).trans (List.suffix_cons name _)
      · split
        · next name hname =>
          have hle : name.length ≤ front.length :=
            length_le_of_parameterAt hplain hmark (Option.ite_none_right_eq_some.mp hname).2
          exact (hnext hle).trans (List.suffix_cons name _)
        · exact hnext (Nat.zero_le _)

/-- A parameter that stands behind a character before which there may be one. -/
theorem parametersFrom_identifier {before c : Char} (hbefore : beforeParameter before = true)
    {name : Chars} (hname : IsIdentifier name) (hc : EndsName c) (rest : Chars) :
    parametersFrom mark 0 false (before :: mark :: (name ++ c :: rest)) =
      (mark :: name) :: parametersFrom mark 0 false (c :: rest) := by
  have hskip : parametersFrom mark (mark :: name).length false (mark :: (name ++ c :: rest)) =
      parametersFrom mark 0 false (c :: rest) :=
    parametersFrom_skip (List.cons_ne_nil mark name) false (c :: rest)
  rw [parametersFrom, if_neg Bool.false_ne_true, if_pos hbefore,
    parameterAt_identifier hname hc]
  exact congrArg _ hskip

theorem endsName_comma : EndsName ',' := ⟨rfl, by decide +kernel⟩

theorem endsName_closingParenthesis : EndsName ')' := ⟨rfl, by decide +kernel⟩

/-- **A list of parameters is found as it is.** -/
theorem parametersFrom_intercalate {before : Char} (hbefore : beforeParameter before = true)
    {names : List Chars} (hne : names ≠ []) (hnames : ∀ name ∈ names, IsIdentifier name)
    (rest : Chars) :
    parametersFrom mark 0 false
        (before :: ([','].intercalate (names.map (mark :: ·)) ++ ')' :: rest)) =
      names.map (mark :: ·) ++ parametersFrom mark 0 false (')' :: rest) := by
  induction names generalizing before with
  | nil => contradiction
  | cons name names ih =>
    rw [List.forall_mem_cons] at hnames
    cases names with
    | nil =>
      rw [List.map_singleton, List.intercalate_singleton]
      exact parametersFrom_identifier hbefore hnames.1 endsName_closingParenthesis rest
    | cons other names =>
      simp only [List.map_cons, List.intercalate_cons_cons, List.cons_append, List.append_assoc,
        List.nil_append] at ih ⊢
      rw [parametersFrom_identifier hbefore hnames.1 endsName_comma,
        ih rfl (List.cons_ne_nil other names) hnames.2]

/-! ## Statements that insert a row -/

namespace QueryStyle

variable {style : QueryStyle}

theorem mem_parameterNames {query parameter : String} :
    parameter ∈ style.parameterNames query ↔ parameter ∈ style.parametersIn query := by
  rw [parameterNames, List.mem_mergeSort, List.mem_eraseDups]

/-- Whatever is inserted into, the list of parameters stands between parentheses at the end. -/
theorem exists_toList_insertRow (table : String) (texts parameters : List String) :
    ∃ front, front ≠ [] ∧ (Dialect.insertRow table texts parameters).toList =
      front ++ '(' :: ([','].intercalate (parameters.map String.toList) ++ [')']) := by
  -- stated for any four texts: a search for appended ones would look into every literal
  have happend (a b c d : String) :
      (a ++ b ++ c ++ d).toList = a.toList ++ b.toList ++ (c.toList ++ d.toList) := by
    simp only [String.toList_append, List.append_assoc]
  have hlist : (commaList parameters).toList = [','].intercalate (parameters.map String.toList) :=
    String.toList_intercalate
  refine ⟨("INSERT INTO " ++ table ++ "(" ++ commaList texts).toList ++ ") VALUES ".toList, ?_, ?_⟩
  · exact List.append_ne_nil_of_right_ne_nil _ (List.cons_ne_nil ')' _)
  · refine (happend _ ") VALUES (" (commaList parameters) ")").trans ?_
    rw [← hlist, List.append_assoc, List.append_assoc]
    rfl

/-- **The parameters of a statement that inserts a row are found in it**, one behind the other,
whatever the names of its table and columns hold. -/
theorem parametersIn_insertRow (hmark : style.searchedMark = style.parameterMark)
    (hparenthesis : '(' ≠ style.parameterMark) {names : List Chars}
    (hnames : ∀ name ∈ names, IsIdentifier name) (table : String) (texts : List String) :
    names.map (fun name => String.ofList (style.parameterMark :: name)) <:+:
      style.parametersIn (Dialect.insertRow table texts
        (names.map fun name => String.ofList (style.parameterMark :: name))) := by
  obtain rfl | hne := eq_or_ne names []
  · exact List.nil_infix
  obtain ⟨front, hfront, htext⟩ := exists_toList_insertRow table texts
    (names.map fun name => String.ofList (style.parameterMark :: name))
  simp only [List.map_map, Function.comp_def, String.toList_ofList] at htext
  have hfound : names.map (style.parameterMark :: ·) <:+:
      parametersFrom style.parameterMark 0 true
        (front ++ '(' :: ([','].intercalate (names.map (style.parameterMark :: ·)) ++ [')'])) := by
    refine List.IsInfix.trans ?_ (parametersFrom_suffix rfl hparenthesis (Nat.zero_le _)
      fun h => absurd h hfront).isInfix
    rw [parametersFrom_intercalate rfl hne hnames]
    exact (List.prefix_append _ _).isInfix
  have hmap := hfound.map String.ofList
  rw [List.map_map] at hmap
  rwa [parametersIn, hmark, htext]

end QueryStyle

namespace Dialect

theorem searchedMark_style (dialect : Dialect) :
    dialect.style.searchedMark = dialect.style.parameterMark := by
  cases dialect <;> rfl

/-- **Generated parameters are safe, apart and recognised.**  Each column in turn gets an
identifier, which differs from the others by more than case, and in whatever statement a row is
inserted with these parameters, all of them are found. -/
theorem parametersFor_safe_apart_found (dialect : Dialect) (columns : List String) :
    (∃ names, QueryStyle.NamedInTurn [] 0 columns names ∧ names.length = columns.length ∧
      (∀ name ∈ names, IsIdentifier name) ∧
      dialect.style.parametersFor columns =
        names.map fun name => String.ofList (dialect.style.parameterMark :: name)) ∧
    DistinctNames (dialect.style.parametersFor columns) ∧
    ∀ (table : String) (texts : List String), dialect.style.parametersFor columns ⊆
      dialect.style.parameterNames
        (insertRow table texts (dialect.style.parametersFor columns)) := by
  have hnamed := QueryStyle.plainParameterNames_namedInTurn [] 0 columns
  refine ⟨⟨_, hnamed, QueryStyle.length_plainParameterNames [] 0 columns, hnamed.isIdentifier, rfl⟩,
    QueryStyle.parametersFor_distinct _ columns, fun table texts parameter hparameter => ?_⟩
  have hfound := QueryStyle.parametersIn_insertRow dialect.searchedMark_style
    (by cases dialect <;> decide) hnamed.isIdentifier table texts
  exact QueryStyle.mem_parameterNames.mpr (hfound.subset hparameter)

end Dialect

end SqlDialects
