import Mathlib.Data.List.Find
import SqlDialects.Proofs.TypeName.RoundTrip
import SqlDialects.Proofs.TypeName.TightReading

/-!
# Strict and loose spellings

A family takes a name in one of two ways.  Some of its spellings are compared with the name
character by character, so that a blank more or less makes it another name
(`Dialect.takesStrictly`).  The others speak of words only, and find them in the tight name just as
well (`Dialect.takesLoosely`, `takesLoosely_tight`).  Nothing else is there (`recognises_eq`).

The families are asked in turn, so a name might be taken loosely by one family before its strict
spelling is met.  That never happens, since the first word of a name tells the two apart:
the strict spellings of a family and the loose ones of the families before it have no first word in
common (`takesLoosely_eq_false`).  Hence **the family of a name** is the one that takes it strictly
if there is one (`familyOf_of_strict`), and comes from its tight spelling otherwise
(`familyOf_of_not_strict`).
-/

set_option autoImplicit false

namespace SqlDialects

open Text

/-! ## Strict and loose spellings -/

/-- Whether a family takes the name by a spelling that leaves no room for more blanks: all of it is
spelled out, or in Oracle all of it up to the blank behind a comma or up to the first
parenthesis. -/
def Dialect.takesStrictly (dialect : Dialect) (family : TypeFamily) (t : Chars) : Bool :=
  match dialect, family with
  | oracle, .int => isOneOf ["number(*,0)"] t || wholeNumberKind? t == some .int32
  | oracle, .string =>
    isOneOf ["char", "nchar", "clob", "nclob", "varchar", "nvarchar"] (t.takeWhile (· != '('))
  | _, .time => isSized ["time"] ["", " without time zone"] t
  | _, .byteArray | _, .decimal | _, .date | _, .guid | _, .string => false
  | dialect, family => dialect.recognises family t

/-- Whether a family takes the name by a spelling that speaks of whole words only. -/
def Dialect.takesLoosely (dialect : Dialect) (family : TypeFamily) (t : Chars) : Bool :=
  match dialect, family with
  | oracle, .int => isOneOf ["int", "integer"] t
  | oracle, .string =>
    isOneOf ["long"] t || "varchar2".toList.isPrefixOf t || "nvarchar2".toList.isPrefixOf t
  | _, .time => startsWithOneOf ["interval"] t
  | _, .bool | _, .byte | _, .smallInt | _, .int | _, .long | _, .floatingPoint => false
  | dialect, family => dialect.recognises family t

theorem recognises_eq (dialect : Dialect) (family : TypeFamily) (t : Chars) :
    dialect.recognises family t =
      (dialect.takesStrictly family t || dialect.takesLoosely family t) := by
  cases family with
  | bool | byte | smallInt | long | floatingPoint => cases dialect <;> exact (Bool.or_false _).symm
  | byteArray | decimal | date | guid => cases dialect <;> rfl
  | time => cases dialect <;> rfl
  | int =>
    cases dialect with
    | oracle =>
      simp only [Dialect.recognises, Dialect.takesStrictly, Dialect.takesLoosely, isOneOf,
        List.any_cons, List.any_nil]
      ac_rfl
    | _ => exact (Bool.or_false _).symm
  | string =>
    cases dialect with
    | oracle => exact Bool.or_comm _ _
    | _ => rfl

theorem commonlyRecognises_tight {family : TypeFamily}
    (h : family ∈ [TypeFamily.byteArray, .decimal, .date, .guid, .string]) (t : Chars) :
    commonlyRecognises family (tight t) = commonlyRecognises family t := by
  simp only [List.mem_cons, List.not_mem_nil, or_false] at h
  rcases h with rfl | rfl | rfl | rfl | rfl
  · exact startsWithOneOf_tight (by decide) t
  · exact startsWithOneOf_tight (by decide) t
  · exact startsWithOneOf_tight (by decide) t
  · exact isOneOf_tight (by decide) t
  · rw [commonlyRecognises, commonlyRecognises, isCharacterName, isCharacterName,
      anyContains_tight (by decide), startsWithOneOf_tight (by decide), isOneOf_tight (by decide)]

/-- **Loose spellings are found in the tight name.** -/
theorem takesLoosely_tight (dialect : Dialect) (family : TypeFamily) (t : Chars) :
    dialect.takesLoosely family (tight t) = dialect.takesLoosely family t := by
  have hcommon : ∀ family ∈ [TypeFamily.byteArray, .decimal, .date, .guid, .string],
      commonlyRecognises family (tight t) = commonlyRecognises family t :=
    fun family h => commonlyRecognises_tight h t
  cases family with
  | bool | byte | smallInt | long | floatingPoint => cases dialect <;> rfl
  | byteArray => cases dialect <;> exact hcommon .byteArray (by decide)
  | decimal => cases dialect <;> exact hcommon .decimal (by decide)
  | date => cases dialect <;> exact hcommon .date (by decide)
  | guid => cases dialect <;> exact hcommon .guid (by decide)
  | time => cases dialect <;> exact startsWithOneOf_tight (by decide) t
  | int =>
    cases dialect with
    | oracle => exact isOneOf_tight (by decide) t
    | _ => rfl
  | string =>
    cases dialect with
    | oracle =>
      rw [Dialect.takesLoosely, Dialect.takesLoosely, isOneOf_tight (by decide),
        isPrefixOf_tight (by decide), isPrefixOf_tight (by decide)]
    | _ => exact hcommon .string (by decide)

/-! ## The first word of a name -/

/-- Lower case letters, digits and the underscore, of which the words of type names are made. -/
def nameRanges : CodeRanges := [(48, 57), (95, 95), (97, 122)]

/-- A character of the words of type names. -/
def isNameChar (c : Char) : Bool := nameRanges.has c

theorem isWordChar_of_isNameChar {c : Char} (h : isNameChar c = true) : isWordChar c = true := by
  have hranges : ∀ range ∈ nameRanges, range ∈ wordRanges := by
    simp only [nameRanges, List.forall_mem_cons]
    exact ⟨.head _, .tail _ (.tail _ (.head _)), .tail _ (.tail _ (.tail _ (.head _))), by simp⟩
  obtain ⟨range, hrange, hc⟩ := List.any_eq_true.mp h
  exact List.any_eq_true.mpr ⟨range, hranges range hrange, hc⟩

/-- The first word of a name, or what there is of it in lower case letters, digits and
underscores. -/
def firstWord (t : Chars) : Chars := t.takeWhile isNameChar

theorem firstWord_append (name : Chars) {rest : Chars} (h : rest.head?.any isNameChar = false) :
    firstWord (name ++ rest) = firstWord name := by
  have hrest : rest.takeWhile isNameChar = [] := by
    cases rest with
    | nil => rfl
    | cons c rest => exact List.takeWhile_cons_of_neg (by simpa using h)
  rw [firstWord, firstWord, List.takeWhile_append, hrest, List.append_nil]
  split
  · next hall => exact (List.takeWhile_prefix isNameChar).eq_of_length hall |>.symm
  · rfl

theorem firstWord_append_paren (name rest : Chars) :
    firstWord (name ++ '(' :: rest) = firstWord name :=
  firstWord_append name rfl

theorem firstWord_of_startsWithOneOf {names : List String} {t : Chars}
    (h : startsWithOneOf names t = true) :
    firstWord t ∈ names.map fun name => firstWord name.toList := by
  obtain ⟨name, hname, hword⟩ := List.any_eq_true.mp h
  rw [startsWithWord] at hword
  split at hword
  · next rest hrest =>
    obtain rfl := after?_eq_some_iff.mp hrest
    refine List.mem_map.mpr ⟨name, hname, (firstWord_append name.toList ?_).symm⟩
    cases rest with
    | nil => rfl
    | cons c rest =>
      refine Bool.eq_false_iff.mpr fun hc => ?_
      simp [endsWord, isWordChar_of_isNameChar (by simpa using hc)] at hword
  · contradiction

theorem firstWord_of_isOneOf {names : List String} {t : Chars} (h : isOneOf names t = true) :
    firstWord t ∈ names.map fun name => firstWord name.toList := by
  obtain ⟨name, hname, h⟩ := List.any_eq_true.mp h
  exact List.mem_map.mpr ⟨name, hname, by rw [beq_iff_eq.mp h]⟩

/-- What holds of the first words of some names holds of that of a text that begins with one. -/
theorem isOneOf_firstWord {names words : List String} {t : Chars}
    (h : firstWord t ∈ names.map fun name => firstWord name.toList)
    (hwords : ∀ name ∈ names, isOneOf words (firstWord name.toList) = true) :
    isOneOf words (firstWord t) = true := by
  obtain ⟨name, hname, heq⟩ := List.mem_map.mp h
  exact heq ▸ hwords name hname

/-! ## Names with sizes -/

/-- What follows the name of a sized type. -/
theorem eq_of_isSized {names endings : List String} {t : Chars}
    (h : isSized names endings t = true) :
    ∃ name ∈ names, ∃ ending ∈ endings, t = name.toList ++ ending.toList ∨
      ∃ digits, (∀ c ∈ digits, isAnyDigit c = true) ∧
        t = name.toList ++ '(' :: (digits ++ ')' :: ending.toList) := by
  obtain ⟨name, hname, hafter⟩ := List.any_eq_true.mp h
  split at hafter
  · next rest hstart =>
    obtain rfl := after?_eq_some_iff.mp hstart
    obtain ⟨ending, hending, heq⟩ := List.any_eq_true.mp hafter
    have hrest := beq_iff_eq.mp heq
    refine ⟨name, hname, ending, hending, ?_⟩
    cases hsize : dropSize? rest with
    | none =>
      rw [hsize] at hrest
      exact .inl (by rw [hrest]; rfl)
    | some left =>
      rw [hsize] at hrest
      unfold dropSize? at hsize
      split at hsize
      · next s =>
        have hclose := after?_eq_some_iff.mp (Option.ite_none_left_eq_some.mp hsize).2
        refine .inr ⟨s.takeWhile isAnyDigit, fun c hc => List.mem_takeWhile_imp hc, ?_⟩
        have hdigits : s = s.takeWhile isAnyDigit ++ ')' :: left := by
          rw [← List.singleton_append, ← hclose, List.takeWhile_append_dropWhile]
        rw [hrest, Option.getD_some, ← hdigits]
      · contradiction
  · contradiction

theorem firstWord_of_isSized {names endings : List String}
    (hendings : ∀ ending ∈ endings, ending.toList.head?.any isNameChar = false) {t : Chars}
    (h : isSized names endings t = true) :
    firstWord t ∈ names.map fun name => firstWord name.toList := by
  obtain ⟨name, hname, ending, hending, rfl | ⟨digits, -, rfl⟩⟩ := eq_of_isSized h
  · exact List.mem_map.mpr ⟨name, hname, (firstWord_append _ (hendings ending hending)).symm⟩
  · exact List.mem_map.mpr ⟨name, hname, (firstWord_append_paren _ _).symm⟩

/-- A name up to its first parenthesis. -/
theorem eq_of_isOneOf_takeWhile {names : List String} {t : Chars}
    (h : isOneOf names (t.takeWhile (· != '(')) = true) :
    ∃ name ∈ names, t = name.toList ∨ ∃ rest, t = name.toList ++ '(' :: rest := by
  obtain ⟨name, hname, heq⟩ := List.any_eq_true.mp h
  have ht := (List.takeWhile_append_dropWhile (p := (· != '(')) (l := t)).symm
  rw [← beq_iff_eq.mp heq] at ht
  refine ⟨name, hname, ?_⟩
  cases hrest : t.dropWhile (· != '(') with
  | nil => exact .inl (by rw [ht, hrest, List.append_nil])
  | cons c rest =>
    have hc : (c != '(') = false := by
      have hhead := List.head?_dropWhile_not (· != '(') t
      rw [hrest] at hhead
      exact hhead
    exact .inr ⟨rest, by rw [ht, hrest, bne_eq_false_iff_eq.mp hc]⟩

/-- What may stand behind the digits of a whole number. -/
def ClosesWholeNumber (rest : Chars) : Prop :=
  rest = [')'] ∨ ∃ tail, rest = ',' :: tail ∧ trimStart tail = ['0', ')']

/-- The parts of a whole number's name. -/
theorem eq_of_wholeNumberPrecision? {t : Chars} {precision : Nat}
    (h : wholeNumberPrecision? t = some precision) :
    ∃ name ∈ ["number", "numeric", "decimal"], ∃ digits rest, digits ≠ [] ∧
      (∀ c ∈ digits, isAnyDigit c = true) ∧ t = name.toList ++ '(' :: (digits ++ rest) ∧
      ClosesWholeNumber rest ∧ (readNat digits).filter (· ≤ 4294967295) = some precision := by
  obtain ⟨name, hname, hread⟩ := List.exists_of_findSome?_eq_some h
  obtain ⟨⟨digits, rest⟩, hnumeral, hclosed⟩ := Option.bind_eq_some_iff.mp hread
  obtain ⟨left, hstart, hdigits⟩ := Option.bind_eq_some_iff.mp hnumeral
  obtain rfl := after?_eq_some_iff.mp hstart
  simp only [takeNumeral] at hdigits
  obtain ⟨hne, heq⟩ := Option.ite_none_left_eq_some.mp hdigits
  obtain ⟨rfl, rfl⟩ := Prod.mk.inj (Option.some.inj heq)
  obtain ⟨hend, hprecision⟩ := Option.ite_none_right_eq_some.mp hclosed
  refine ⟨name, hname, left.takeWhile isAnyDigit, left.dropWhile isAnyDigit,
    fun hnil => hne (by rw [hnil]; rfl), fun c hc => List.mem_takeWhile_imp hc, ?_, ?_, hprecision⟩
  · rw [List.takeWhile_append_dropWhile, String.toList_append, List.append_assoc]
    rfl
  · split at hend
    · next tail htail => exact .inr ⟨tail, htail, beq_iff_eq.mp hend⟩
    · exact .inl (beq_iff_eq.mp hend)

/-! ## Words of strict and of loose spellings -/

/-- The words that the strict spellings of a family begin with. -/
def Dialect.strictWords (dialect : Dialect) (family : TypeFamily) : List String :=
  match dialect, family with
  | oracle, .bool | oracle, .byte | oracle, .smallInt | oracle, .int | oracle, .long =>
    ["number", "numeric", "decimal"]
  | oracle, .string => ["char", "nchar", "clob", "nclob", "varchar", "nvarchar"]
  | _, .bool => ["bit", "bool", "boolean", "tinyint"]
  | _, .byte => ["tinyint"]
  | _, .smallInt => ["smallint", "int2"]
  | _, .int => ["int", "integer", "int4", "mediumint"]
  | _, .long => ["bigint", "int8"]
  | _, .floatingPoint =>
    ["float", "real", "double", "float4", "float8", "binary_float", "binary_double"]
  | _, .time => ["time"]
  | _, .byteArray | _, .decimal | _, .date | _, .guid | _, .string => []

/-- Whether loose spellings of a family may begin with a word. -/
def Dialect.mayBeLoose (dialect : Dialect) (family : TypeFamily) (word : Chars) : Bool :=
  match dialect, family with
  | oracle, .int => isOneOf ["int", "integer"] word
  | oracle, .string => isOneOf ["long"] word || "varchar2".toList.isPrefixOf word ||
      "nvarchar2".toList.isPrefixOf word
  | _, .byteArray => isOneOf ["binary", "varbinary", "image", "bytea", "blob", "tinyblob",
      "mediumblob", "longblob", "raw", "long"] word
  | _, .decimal => isOneOf ["decimal", "numeric", "number", "dec", "money", "smallmoney"] word
  | _, .date => isOneOf ["date", "datetime", "datetime2", "smalldatetime", "datetimeoffset",
      "timestamp"] word
  | _, .time => isOneOf ["interval"] word
  | _, .guid => isOneOf ["uniqueidentifier", "uuid"] word
  | _, .string => true
  | _, _ => false

/-- The first word of a whole number's name. -/
theorem firstWord_of_wholeNumberKind? {t : Chars} {kind : TypeKind}
    (h : wholeNumberKind? t = some kind) :
    firstWord t ∈ ["number", "numeric", "decimal"].map fun name => firstWord name.toList := by
  obtain ⟨precision, hprecision, -⟩ := Option.bind_eq_some_iff.mp h
  obtain ⟨name, hname, digits, rest, -, -, rfl, -⟩ := eq_of_wholeNumberPrecision? hprecision
  exact List.mem_map.mpr ⟨name, hname, (firstWord_append_paren _ _).symm⟩

theorem firstWord_of_isOneOf_takeWhile {names : List String} {t : Chars}
    (h : isOneOf names (t.takeWhile (· != '(')) = true) :
    firstWord t ∈ names.map fun name => firstWord name.toList := by
  obtain ⟨name, hname, rfl | ⟨rest, rfl⟩⟩ := eq_of_isOneOf_takeWhile h
  · exact List.mem_map.mpr ⟨name, hname, rfl⟩
  · exact List.mem_map.mpr ⟨name, hname, (firstWord_append_paren _ _).symm⟩

theorem firstWord_of_takesStrictly {dialect : Dialect} {family : TypeFamily} {t : Chars}
    (h : dialect.takesStrictly family t = true) :
    isOneOf (dialect.strictWords family) (firstWord t) = true := by
  have hnumber {kind : TypeKind} (h : (wholeNumberKind? t == some kind) = true) :
      isOneOf ["number", "numeric", "decimal"] (firstWord t) = true :=
    isOneOf_firstWord (firstWord_of_wholeNumberKind? (beq_iff_eq.mp h)) (by decide)
  cases family with
  | byteArray | decimal | date | guid => cases dialect <;> exact absurd h Bool.false_ne_true
  | bool =>
    cases dialect with
    | oracle => exact hnumber h
    | _ => exact isOneOf_firstWord (firstWord_of_isOneOf h) (by decide)
  | byte | smallInt | long =>
    cases dialect with
    | oracle => exact hnumber h
    | _ => exact isOneOf_firstWord (firstWord_of_isSized (by decide) h) (by decide)
  | int =>
    cases dialect with
    | oracle =>
      rcases Bool.or_eq_true_iff.mp h with h | h
      · exact isOneOf_firstWord (firstWord_of_isOneOf h) (by decide)
      · exact hnumber h
    | _ => exact isOneOf_firstWord (firstWord_of_isSized (by decide) h) (by decide)
  | floatingPoint | time =>
    cases dialect <;>
      exact isOneOf_firstWord (firstWord_of_isSized (by decide) h) (by decide)
  | string =>
    cases dialect with
    | oracle => exact isOneOf_firstWord (firstWord_of_isOneOf_takeWhile h) (by decide)
    | _ => exact absurd h Bool.false_ne_true

theorem isPrefixOf_firstWord {word t : Chars} (hword : word.all isNameChar = true)
    (h : word.isPrefixOf t = true) : word.isPrefixOf (firstWord t) = true := by
  obtain ⟨rest, rfl⟩ := List.isPrefixOf_iff_prefix.mp h
  rw [firstWord, List.takeWhile_append_of_pos (List.all_eq_true.mp hword),
    List.isPrefixOf_iff_prefix]
  exact List.prefix_append word _

theorem mayBeLoose_of_takesLoosely {dialect : Dialect} {family : TypeFamily} {t : Chars}
    (h : dialect.takesLoosely family t = true) :
    dialect.mayBeLoose family (firstWord t) = true := by
  cases family with
  | bool | byte | smallInt | long | floatingPoint =>
    cases dialect <;> exact absurd h Bool.false_ne_true
  | byteArray | decimal | date | time =>
    cases dialect <;> exact isOneOf_firstWord (firstWord_of_startsWithOneOf h) (by decide)
  | guid => cases dialect <;> exact isOneOf_firstWord (firstWord_of_isOneOf h) (by decide)
  | int =>
    cases dialect with
    | oracle => exact isOneOf_firstWord (firstWord_of_isOneOf h) (by decide)
    | _ => exact absurd h Bool.false_ne_true
  | string =>
    cases dialect with
    | oracle =>
      rw [Dialect.takesLoosely, Bool.or_eq_true, Bool.or_eq_true] at h
      rw [Dialect.mayBeLoose, Bool.or_eq_true, Bool.or_eq_true]
      refine h.imp (Or.imp (fun hlong => ?_) fun hvarchar => ?_) fun hnvarchar => ?_
      · exact isOneOf_firstWord (firstWord_of_isOneOf hlong) (by decide)
      · exact isPrefixOf_firstWord (by decide) hvarchar
      · exact isPrefixOf_firstWord (by decide) hnvarchar
    | _ => rfl

theorem TypeFamily.mem_all (family : TypeFamily) : family ∈ TypeFamily.all := by
  cases family <;> decide

/-- A name that a family takes strictly is not taken loosely by a family before it, or by one of the
same kind. -/
theorem takesLoosely_eq_false {dialect : Dialect} {family other : TypeFamily} {t : Chars}
    (h : dialect.takesStrictly family t = true)
    (hother : TypeFamily.all.idxOf other < TypeFamily.all.idxOf family ∨
      other.kind = family.kind) : dialect.takesLoosely other t = false := by
  have hapart : ∀ dialect ∈ Dialect.all, ∀ family ∈ TypeFamily.all, ∀ other ∈ TypeFamily.all,
      TypeFamily.all.idxOf other < TypeFamily.all.idxOf family ∨ other.kind = family.kind →
      ∀ word ∈ dialect.strictWords family, dialect.mayBeLoose other word.toList = false := by
    decide +kernel
  refine Bool.eq_false_iff.mpr fun hloose => ?_
  obtain ⟨word, hword, heq⟩ := List.any_eq_true.mp (firstWord_of_takesStrictly h)
  have hnot := hapart dialect dialect.mem_all family family.mem_all other other.mem_all hother
    word hword
  rw [beq_iff_eq.mp heq, mayBeLoose_of_takesLoosely hloose] at hnot
  exact Bool.noConfusion hnot

/-! ## Strict names -/

/-- The first family that takes a name strictly. -/
def Dialect.strictFamilyOf (dialect : Dialect) (t : Chars) : Option TypeFamily :=
  TypeFamily.all.find? fun family => dialect.takesStrictly family t

section Strict

variable {dialect : Dialect} {family : TypeFamily} {t : Chars}

/-- No other family comes before one that takes the name strictly. -/
theorem familyOf_of_strict (h : dialect.strictFamilyOf t = some family) :
    dialect.familyOf t = some family := by
  have hnodup : TypeFamily.all.Nodup := by decide
  rw [Dialect.strictFamilyOf, List.find?_eq_some_iff_getElem] at h
  obtain ⟨hstrict, i, hi, rfl, hbefore⟩ := h
  rw [Dialect.familyOf, List.find?_eq_some_iff_getElem]
  refine ⟨by rw [recognises_eq, hstrict, Bool.true_or], i, hi, rfl, fun j hj => ?_⟩
  have hindex :
      TypeFamily.all.idxOf TypeFamily.all[j] < TypeFamily.all.idxOf TypeFamily.all[i] := by
    rw [hnodup.idxOf_getElem, hnodup.idxOf_getElem]
    exact hj
  have hnot : dialect.takesStrictly TypeFamily.all[j] t = false := by simpa using hbefore j hj
  rw [recognises_eq, hnot, takesLoosely_eq_false hstrict (.inl hindex)]
  rfl

/-- The kind of a name that is not strict comes from its words. -/
theorem familyOf_of_not_strict (h : dialect.strictFamilyOf t = none) :
    dialect.familyOf t =
      TypeFamily.all.find? fun family => dialect.takesLoosely family (tight t) := by
  have hnot := List.find?_eq_none.mp h
  rw [Dialect.familyOf]
  refine List.find?_congr fun family hfamily => ?_
  rw [recognises_eq, takesLoosely_tight, Bool.eq_false_iff.mpr (hnot family hfamily),
    Bool.false_or]

end Strict

end SqlDialects
