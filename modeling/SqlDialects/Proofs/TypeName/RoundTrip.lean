import SqlDialects.Proofs.DecimalSize
import SqlDialects.Proofs.TypeName.Spelling

/-!
# Types read back as they were asked for

A request is declared as the text of a type, and the text is read as a request again.  What comes
back is `Dialect.normalize`, the part of a request that the dialect is able to keep.

The reader asks one family of names after the other, so two things have to be known of a declared
name: that its own family takes it, and that no earlier one does.  `familyOf_eq_some` puts the two
together.  Only the characters in front of the first parenthesis decide the family, and that part of
a declared name is one of finitely many texts; the numbers in the parentheses stay arbitrary
throughout and are read back by the lemmas of `SqlDialects.Proofs.TypeName.Spelling`.

Oracle is the exception to the rule, since it tells whole numbers by their precision:
`kindOf_number` reads the kind of `number(p,s)` off its numbers.

## Main statements

* `stringLength_declareString`, `request_declareString` — strings keep an inline width.
* `decimalSizeOf_declareDecimal` — decimals keep both digit counts.
* `normalize_idem` — a second normalization changes nothing.
* `request_declare_same_normalize` — every request, in every dialect.
-/

set_option autoImplicit false

namespace SqlDialects

open Text

/-! ## The family of a declared name -/

/-- A name belongs to the first family that takes it. -/
theorem familyOf_eq_some {dialect : Dialect} {t : Chars} {family : TypeFamily}
    (earlier : List TypeFamily) {later : List TypeFamily}
    (hall : TypeFamily.all = earlier ++ family :: later)
    (hyes : dialect.recognises family t = true)
    (hno : ∀ other ∈ earlier, dialect.recognises other t = false) :
    dialect.familyOf t = some family := by
  rw [Dialect.familyOf, List.find?_eq_some_iff_append]
  exact ⟨hyes, earlier, later, hall, fun other ho => by simp [hno other ho]⟩

/-- A word ends before a parenthesis. -/
theorem startsWithWord_append_paren (word rest : Chars) :
    startsWithWord word (word ++ '(' :: rest) = true := by
  have hparen : isWordChar '(' = false := by decide +kernel
  rw [startsWithWord, after?_eq_some_iff.mpr rfl]
  simp [endsWord, hparen]

theorem startsWithOneOf_append_paren {names : List String} (name : String) (h : name ∈ names)
    (rest : Chars) : startsWithOneOf names (name.toList ++ '(' :: rest) = true :=
  List.any_eq_true.mpr ⟨name, h, startsWithWord_append_paren _ _⟩

/-- The name of a string type before its width. -/
def TypeStyle.stringBase (types : TypeStyle) (unicode : Bool) : String :=
  if unicode then types.unicodeName else types.stringName

/-- The name of the string type that has no width. -/
def TypeStyle.unlimitedName (types : TypeStyle) (unicode : Bool) : String :=
  if unicode then types.unicodeTextName else types.textName

/-- The families that are asked before decimals. -/
def TypeFamily.beforeDecimal : List TypeFamily :=
  [bool, byte, byteArray, smallInt, int, long, floatingPoint]

theorem familyOf_stringBase (dialect : Dialect) (unicode : Bool) (rest : Chars) :
    dialect.familyOf ((dialect.types.stringBase unicode).toList ++ '(' :: rest) =
      some .string := by
  refine familyOf_eq_some (TypeFamily.beforeDecimal ++ [.decimal, .date, .time, .guid]) rfl ?_ ?_
  · cases dialect <;> cases unicode <;> rfl
  · simp only [TypeFamily.beforeDecimal, List.cons_append, List.nil_append, List.forall_mem_cons]
    cases dialect <;> cases unicode <;>
      exact ⟨rfl, rfl, rfl, rfl, rfl, rfl, rfl, rfl, rfl, rfl, rfl, by simp⟩

theorem recognises_decimalName (dialect : Dialect) (rest : Chars) :
    dialect.recognises .decimal (dialect.types.decimalName.toList ++ '(' :: rest) = true := by
  cases dialect
  case oracle => exact startsWithOneOf_append_paren "number" (by decide) rest
  all_goals exact startsWithOneOf_append_paren "decimal" (by decide) rest

theorem familyOf_decimalName {dialect : Dialect} (h : dialect ≠ .oracle) (rest : Chars) :
    dialect.familyOf (dialect.types.decimalName.toList ++ '(' :: rest) = some .decimal := by
  refine familyOf_eq_some TypeFamily.beforeDecimal rfl
    (recognises_decimalName dialect rest) ?_
  simp only [TypeFamily.beforeDecimal, List.forall_mem_cons]
  cases dialect
  case oracle => exact absurd rfl h
  all_goals exact ⟨rfl, rfl, rfl, rfl, rfl, rfl, rfl, by simp⟩

theorem familyOf_varbinary (rest : Chars) :
    Dialect.mssql.familyOf ("varbinary".toList ++ '(' :: rest) = some .byteArray := by
  refine familyOf_eq_some [.bool, .byte] rfl
    (startsWithOneOf_append_paren "varbinary" (by decide) rest) ?_
  simp only [List.forall_mem_cons]
  exact ⟨rfl, rfl, by simp⟩

/-! ## Whole numbers -/

theorem wholeNumberKind?_number {precision : Nat} (h : precision ≤ 4294967295) (scale : Nat) :
    wholeNumberKind? ("number".toList ++ sizeSuffix precision scale) =
      if scale = 0 then kindOfPrecision? precision else none := by
  -- the digits behind the comma are a lone zero or they are not
  have hclosed : (trimStart (Nat.toDigits 10 scale ++ [')']) == ['0', ')']) =
      decide (scale = 0) := by
    rw [trimStart_toDigits, show ['0', ')'] = ['0'] ++ [')'] from rfl, Bool.eq_iff_iff,
      beq_iff_eq, List.append_left_inj, toDigits_eq_zero_iff, decide_eq_true_eq]
  have hnumeral := takeNumeral_toDigits precision (c := ',') (Nat.toDigits 10 scale ++ [')'])
    (by decide)
  have hnumber : (after? ("number" ++ "(").toList
      ("number".toList ++ sizeSuffix precision scale)).bind takeNumeral =
      some (Nat.toDigits 10 precision, ',' :: (Nat.toDigits 10 scale ++ [')'])) := hnumeral
  have hnumeric : after? ("numeric" ++ "(").toList
      ("number".toList ++ sizeSuffix precision scale) = none := rfl
  have hdecimal : after? ("decimal" ++ "(").toList
      ("number".toList ++ sizeSuffix precision scale) = none := rfl
  rw [wholeNumberKind?, wholeNumberPrecision?]
  simp only [List.findSome?_cons, List.findSome?_nil, hnumber, hnumeric, hdecimal, hclosed,
    Option.bind_eq_bind, Option.bind_some, Option.bind_none, readNat_toDigits, Option.filter_some,
    decide_eq_true h]
  by_cases hs : scale = 0 <;> simp [hs]

/-- The kinds that whole numbers of some precision have. -/
theorem kindOfPrecision?_eq_some {precision : Nat} {kind : TypeKind}
    (h : kindOfPrecision? precision = some kind) :
    kind = .bool ∨ kind = .byte ∨ kind = .int16 ∨ kind = .int32 ∨ kind = .int64 := by
  rw [kindOfPrecision?] at h
  grind

/-- Oracle finds the kind of a number in its precision, and takes all other numbers as decimals. -/
theorem kindOf_number {precision : Nat} (h : precision ≤ 4294967295) (scale : Nat) :
    (Dialect.oracle.familyOf ("number".toList ++ sizeSuffix precision scale)).map
        TypeFamily.kind =
      some ((if scale = 0 then kindOfPrecision? precision else none).getD .decimal) := by
  have hbytes : commonlyRecognises .byteArray
      ("number".toList ++ sizeSuffix precision scale) = false := rfl
  have hfloat : commonlyRecognises .floatingPoint
      ("number".toList ++ sizeSuffix precision scale) = false := rfl
  have hdecimal : commonlyRecognises .decimal
      ("number".toList ++ sizeSuffix precision scale) = true := recognises_decimalName .oracle _
  -- `number(*,0)` is a whole number too, but a digit is no star
  have hstar : isOneOf ["int", "integer", "number(*,0)"]
      ("number".toList ++ sizeSuffix precision scale) = false := by
    cases hd : Nat.toDigits 10 precision with
    | nil => exact absurd hd Nat.toDigits_ne_nil
    | cons c digits =>
      have hdigit : c.isDigit = true := isDigit_of_mem_toDigits (n := precision) (by simp [hd])
      have hc : c ≠ '*' := fun h => absurd (h ▸ hdigit) (by decide)
      simp [isOneOf, sizeSuffix, hd, Ne.symm hc]
  have hkind := wholeNumberKind?_number h scale
  generalize "number".toList ++ sizeSuffix precision scale = t at *
  simp only [Dialect.familyOf, TypeFamily.all, List.find?_cons, Dialect.recognises, hkind, hstar,
    hbytes, hfloat, hdecimal, Bool.false_or]
  rcases hfound : (if scale = 0 then kindOfPrecision? precision else none) with _ | kind
  · rfl
  · have hmem := kindOfPrecision?_eq_some (Option.ite_none_right_eq_some.mp hfound).2
    rcases hmem with rfl | rfl | rfl | rfl | rfl <;> rfl

/-! ## Strings -/

/-- Whether the names of unicode types differ from those of plain ones. -/
def Dialect.marksUnicode : Dialect → Bool
  | mysql | postgres => false
  | mssql | oracle | sqlite => true

theorem Dialect.mem_all (dialect : Dialect) : dialect ∈ Dialect.all := by
  cases dialect <;> decide

theorem declareString_eq (types : TypeStyle) (width : Option UInt32) (unicode : Bool) :
    types.declareString width unicode =
      match types.inlineWidth width unicode with
      | some w => TypeStyle.withWidth (types.stringBase unicode) w
      | none => types.unlimitedName unicode := rfl

/-- Widths that are declared inline are far below the length that stands for no limit. -/
theorem inlineWidth_lt {dialect : Dialect} {width : Option UInt32} {unicode : Bool} {w : UInt32}
    (h : dialect.types.inlineWidth width unicode = some w) : w.toNat < 2147483647 := by
  rw [TypeStyle.inlineWidth, Option.map_eq_some_iff] at h
  obtain ⟨v, hv, rfl⟩ := h
  have hceiling : dialect.types.ceiling unicode ≤ 10485760 := by
    cases dialect <;> cases unicode <;> decide
  have hle : v ≤ dialect.types.ceiling unicode := by
    simpa using (Option.filter_eq_some_iff.mp hv).2
  rw [UInt32.le_iff_toNat_le] at hceiling hle
  rw [toNat_max]
  have : (10485760 : UInt32).toNat = 10485760 := rfl
  have : (1 : UInt32).toNat = 1 := rfl
  omega

theorem isPlainSpelling_stringBase (dialect : Dialect) (unicode : Bool) :
    (dialect.types.stringBase unicode).toList.all isPlainSpelling = true := by
  cases dialect <;> cases unicode <;> decide

theorem paren_not_mem_stringBase (dialect : Dialect) (unicode : Bool) :
    '(' ∉ (dialect.types.stringBase unicode).toList := by
  cases dialect <;> cases unicode <;> decide

/-- The types of unlimited strings are read as such. -/
theorem unlimitedName_spec (dialect : Dialect) (unicode : Bool) :
    dialect.kindOf (dialect.types.unlimitedName unicode) = some .string ∧
      dialect.stringLength (dialect.types.unlimitedName unicode) = unlimitedLength ∧
      dialect.isUnicode (dialect.types.unlimitedName unicode) =
        (dialect.marksUnicode && unicode) := by
  have hall : ∀ dialect ∈ Dialect.all, ∀ unicode : Bool,
      dialect.kindOf (dialect.types.unlimitedName unicode) = some .string ∧
        dialect.stringLength (dialect.types.unlimitedName unicode) = unlimitedLength ∧
        dialect.isUnicode (dialect.types.unlimitedName unicode) =
          (dialect.marksUnicode && unicode) := by
    decide +kernel
  exact hall dialect dialect.mem_all unicode

theorem kindOf_declareString (dialect : Dialect) (width : Option UInt32) (unicode : Bool) :
    dialect.kindOf (dialect.types.declareString width unicode) = some .string := by
  rw [declareString_eq]
  cases dialect.types.inlineWidth width unicode with
  | none => exact (unlimitedName_spec dialect unicode).1
  | some w =>
    simp only [Dialect.kindOf]
    rw [canonicalName_withWidth (isPlainSpelling_stringBase dialect unicode), widthSuffix,
      familyOf_stringBase]
    rfl

/-- **Strings keep their inline width**, and have no limit without one. -/
theorem stringLength_declareString (dialect : Dialect) (width : Option UInt32) (unicode : Bool) :
    dialect.stringLength (dialect.types.declareString width unicode) =
      match dialect.types.inlineWidth width unicode with
      | some w => (w.toNat : Int)
      | none => unlimitedLength := by
  rw [Dialect.stringLength, if_neg (by simp [kindOf_declareString]), declareString_eq]
  cases hw : dialect.types.inlineWidth width unicode with
  | none =>
    have hlength := (unlimitedName_spec dialect unicode).2.1
    rwa [Dialect.stringLength, if_neg (by simp [(unlimitedName_spec dialect unicode).1])]
      at hlength
  | some w =>
    have hlt := inlineWidth_lt hw
    have hlimited : isUnlimitedString ((dialect.types.stringBase unicode).toList ++
        widthSuffix w.toNat) = false := by
      cases dialect <;> cases unicode <;> rfl
    simp only [canonicalName_withWidth (isPlainSpelling_stringBase dialect unicode),
      firstQualifier_width (paren_not_mem_stringBase dialect unicode)
        (show w.toNat ≤ 9223372036854775807 by omega), Option.getD_some, hlimited]
    rfl

theorem isUnicode_declareString (dialect : Dialect) (width : Option UInt32) (unicode : Bool) :
    dialect.isUnicode (dialect.types.declareString width unicode) =
      (dialect.marksUnicode && unicode) := by
  rw [declareString_eq]
  cases dialect.types.inlineWidth width unicode with
  | none => exact (unlimitedName_spec dialect unicode).2.2
  | some w =>
    simp only [Dialect.isUnicode]
    rw [canonicalName_withWidth (isPlainSpelling_stringBase dialect unicode)]
    cases dialect <;> cases unicode <;> rfl

theorem request_declareString (dialect : Dialect) (width : Option UInt32) (unicode : Bool) :
    dialect.request (dialect.types.declareString width unicode) =
      .ok { kind := .string, width := dialect.types.inlineWidth width unicode
            unicode := dialect.marksUnicode && unicode } := by
  rw [Dialect.request, kindOf_declareString]
  simp only [Dialect.stringWidth, stringLength_declareString, isUnicode_declareString]
  cases hw : dialect.types.inlineWidth width unicode with
  | none => simp
  | some w =>
    have hlt := inlineWidth_lt hw
    have hlimited : ¬((w.toNat : Int) = unlimitedLength ∨ (w.toNat : Int) < 0) := by
      rw [unlimitedLength]; omega
    simp only [if_neg hlimited, Int.toNat_natCast]
    rw [Nat.mod_eq_of_lt (by omega), UInt32.ofNat_toNat]

theorem normalize_string (dialect : Dialect) (width : Option UInt32) (size : Option DecimalSize)
    (unicode : Bool) :
    dialect.normalize ⟨.string, width, size, unicode⟩ =
      { kind := .string, width := dialect.types.inlineWidth width unicode
        unicode := dialect.marksUnicode && unicode } := by
  cases dialect <;> rfl

/-! ## Decimals -/

theorem isPlainSpelling_decimalName (dialect : Dialect) :
    dialect.types.decimalName.toList.all isPlainSpelling = true := by
  cases dialect <;> decide

theorem paren_not_mem_decimalName (dialect : Dialect) :
    '(' ∉ dialect.types.decimalName.toList := by
  cases dialect <;> decide

/-- The size that is declared for a decimal: ten digits on either side unless some are given. -/
def DecimalSize.declared (size : Option DecimalSize) : DecimalSize :=
  (size.filter fun d => !d.isEmpty).getD (ofDigits 10 10)

theorem declareDecimal_eq (types : TypeStyle) (size : Option DecimalSize) :
    types.declareDecimal size = types.decimalName ++ (DecimalSize.declared size).render := by
  rw [TypeStyle.declareDecimal, DecimalSize.declared]
  cases size.filter fun d => !d.isEmpty with
  | none => rfl
  | some d => rfl

/-- A size is declared if its digits can be counted. -/
theorem declareDecimal?_some (types : TypeStyle) (d : DecimalSize) :
    types.declareDecimal? (some d) =
      if d.IsRepresentable then some (types.declareDecimal (some d)) else none := by
  rw [TypeStyle.declareDecimal?, DecimalSize.isEmpty?_eq, DecimalSize.render?_eq]
  split
  · rw [TypeStyle.declareDecimal, Option.filter_some]
    cases d.isEmpty <;> rfl
  · rfl

theorem canonicalName_declareDecimal (dialect : Dialect) (size : Option DecimalSize) :
    canonicalName (dialect.types.declareDecimal size) =
      dialect.types.decimalName.toList ++ sizeSuffix (DecimalSize.declared size).precision.toNat
        (DecimalSize.declared size).scale.toNat := by
  rw [declareDecimal_eq, canonicalName_append_render (isPlainSpelling_decimalName dialect)]

/-- **Decimals keep their digits** on both sides of the point. -/
theorem decimalSizeOf_declareDecimal (dialect : Dialect) (size : Option DecimalSize) :
    dialect.decimalSizeOf (dialect.types.declareDecimal size) =
      some (DecimalSize.ofPrecisionScale (DecimalSize.declared size).precision.toNat
        (DecimalSize.declared size).scale.toNat) := by
  have hp := (DecimalSize.declared size).precision.toNat_lt
  have hs := (DecimalSize.declared size).scale.toNat_lt
  rw [Dialect.decimalSizeOf, qualifierOf, canonicalName_declareDecimal,
    firstQualifier_size (paren_not_mem_decimalName dialect) (by omega) (by omega), sizeSuffix,
    if_pos (recognises_decimalName dialect _)]
  rfl

/-- A decimal stays one, unless Oracle takes it for a whole number. -/
theorem kindOf_declareDecimal (dialect : Dialect) (size : Option DecimalSize) :
    dialect.kindOf (dialect.types.declareDecimal size) =
      if dialect = .oracle ∧ (DecimalSize.declared size).scale.toNat = 0 then
        some ((kindOfPrecision? (DecimalSize.declared size).precision.toNat).getD .decimal)
      else some .decimal := by
  rw [Dialect.kindOf, canonicalName_declareDecimal]
  generalize DecimalSize.declared size = d
  by_cases ho : dialect = .oracle
  · subst ho
    have hp := d.precision.toNat_lt
    refine (kindOf_number (show d.precision.toNat ≤ 4294967295 by omega) d.scale.toNat).trans ?_
    by_cases hs : d.scale.toNat = 0 <;> simp [hs]
  · rw [sizeSuffix, familyOf_decimalName ho, if_neg (fun h => ho h.1)]
    rfl

/-- A request for a kind that has no arguments reads back as just the kind. -/
theorem request_of_kindOf {dialect : Dialect} {sqlType : String} {kind : TypeKind}
    (h : dialect.kindOf sqlType = some kind) (hstring : kind ≠ .string)
    (hbytes : kind ≠ .byteArray) (hdecimal : kind ≠ .decimal) :
    dialect.request sqlType = .ok (.ofKind kind) := by
  rw [Dialect.request, h]
  cases kind with
  | string => exact absurd rfl hstring
  | byteArray => exact absurd rfl hbytes
  | decimal => exact absurd rfl hdecimal
  | _ => rfl

theorem TypeRequest.same_refl (r : TypeRequest) : r.same r = true := by
  rw [TypeRequest.same]
  cases r.decimalSize with
  | none => simp
  | some d => simp [DecimalSize.same_refl]

/-- The size that is declared is representable if the size asked for is. -/
theorem isRepresentable_declared {size : Option DecimalSize}
    (h : ∀ d ∈ size, d.IsRepresentable) : (DecimalSize.declared size).IsRepresentable := by
  rw [DecimalSize.declared]
  cases hd : size.filter fun d => !d.isEmpty with
  | none => decide
  | some d => exact h d (Option.filter_eq_some_iff.mp hd).1

/-- Whole numbers of Oracle are found in the size asked for or in the size declared, since the size
of a decimal without one is not whole. -/
theorem wholeNumberKind_declared (size : Option DecimalSize) :
    ((size.filter fun d => d.scale == 0).bind fun d => kindOfPrecision? d.precision.toNat) =
      if (DecimalSize.declared size).scale.toNat = 0 then
        kindOfPrecision? (DecimalSize.declared size).precision.toNat
      else none := by
  have hten : (DecimalSize.ofDigits 10 10).scale.toNat ≠ 0 := by decide
  have hscale (d : DecimalSize) : (d.scale == 0) = decide (d.scale.toNat = 0) := by
    rw [Bool.eq_iff_iff, beq_iff_eq, decide_eq_true_eq, ← UInt32.toNat_inj]
    rfl
  cases size with
  | none => simp [DecimalSize.declared, hten]
  | some d =>
    by_cases hempty : d.isEmpty = true
    · have hzero : d.precision.toNat = 0 := by
        rw [DecimalSize.isEmpty, beq_iff_eq] at hempty
        rw [hempty]; rfl
      simp [DecimalSize.declared, hempty, hten, Option.filter_some, hscale, hzero, kindOfPrecision?]
    · by_cases hs : d.scale.toNat = 0 <;>
        simp [DecimalSize.declared, hempty, Option.filter_some, hscale, hs]

theorem normalize_decimal (dialect : Dialect) (width : Option UInt32) (size : Option DecimalSize)
    (unicode : Bool) :
    dialect.normalize ⟨.decimal, width, size, unicode⟩ =
      match (if dialect = .oracle ∧ (DecimalSize.declared size).scale.toNat = 0 then
        kindOfPrecision? (DecimalSize.declared size).precision.toNat else none) with
      | some kind => .ofKind kind
      | none => .decimal (DecimalSize.declared size) := by
  cases dialect
  case oracle =>
    simp only [true_and, ← wholeNumberKind_declared]
    rfl
  all_goals rfl

/-! ## Byte arrays -/

theorem normalize_byteArray (dialect : Dialect) (width : Option UInt32)
    (size : Option DecimalSize) (unicode : Bool) :
    dialect.normalize ⟨.byteArray, width, size, unicode⟩ =
      .byteArray (match dialect.types.bytes with
        | .single _ => none
        | .sized _ limit _ => (width.filter (· ≤ limit)).map fun w => max w 1) := by
  cases dialect <;> rfl

theorem request_varbinary (w : UInt32) :
    Dialect.mssql.request (TypeStyle.withWidth "varbinary" w) = .ok (.byteArray (some w)) := by
  have hplain : "varbinary".toList.all isPlainSpelling = true := by decide
  have hcanonical := canonicalName_withWidth hplain w
  have hkind : Dialect.mssql.kindOf (TypeStyle.withWidth "varbinary" w) = some .byteArray := by
    rw [Dialect.kindOf, hcanonical, widthSuffix, familyOf_varbinary]
    rfl
  have hlt := w.toNat_lt
  have hwidth : Dialect.byteWidth (TypeStyle.withWidth "varbinary" w) = some w := by
    rw [Dialect.byteWidth, qualifierOf, hcanonical, firstQualifier_width (by decide) (by omega)]
    simp [DecimalSize.clamp_toNat]
  rw [Dialect.request, hkind]
  simp only [hwidth]
  rfl

/-- A name of byte arrays that has no width. -/
theorem request_byteArray {dialect : Dialect} (sqlType : String)
    (hkind : dialect.kindOf sqlType = some .byteArray)
    (hwidth : Dialect.byteWidth sqlType = none) :
    dialect.request sqlType = .ok (.byteArray none) := by
  rw [Dialect.request, hkind]
  simp only [hwidth]
  rfl

/-- Byte arrays keep their width where the dialect declares one. -/
theorem request_declareBytes (dialect : Dialect) (width : Option UInt32) :
    dialect.request (dialect.types.declareBytes width) =
      .ok (.byteArray (match dialect.types.bytes with
        | .single _ => none
        | .sized _ limit _ => (width.filter (· ≤ limit)).map fun w => max w 1)) := by
  cases dialect with
  | mssql =>
    simp only [Dialect.types, TypeStyle.declareBytes]
    cases width.filter (· ≤ 8000) with
    | none => exact request_byteArray "varbinary(max)" (by decide +kernel) (by decide +kernel)
    | some w => exact request_varbinary (max w 1)
  | mysql => exact request_byteArray "longblob" (by decide +kernel) (by decide +kernel)
  | postgres => exact request_byteArray "bytea" (by decide +kernel) (by decide +kernel)
  | oracle | sqlite =>
    exact request_byteArray "blob" (by decide +kernel) (by decide +kernel)

/-! ## Kinds without arguments -/

/-- The kinds whose types have no arguments. -/
def TypeKind.withoutArguments : List TypeKind :=
  [.int16, .int32, .int64, .dateTime, .timeSpan, .bool, .byte, .guid]

theorem TypeKind.mem_withoutArguments {kind : TypeKind} (hstring : kind ≠ .string)
    (hbytes : kind ≠ .byteArray) (hdecimal : kind ≠ .decimal) :
    kind ∈ TypeKind.withoutArguments := by
  cases kind <;> first | contradiction | decide

/-- A kind without arguments comes back as it is, except that an identifier is a string where the
engine has no type for it, and a byte is a small integer. -/
theorem request_declare_ofKind (dialect : Dialect) {kind : TypeKind}
    (hkind : kind ∈ TypeKind.withoutArguments) :
    dialect.request (dialect.declare (.ofKind kind)) = .ok (dialect.normalize (.ofKind kind)) := by
  have hall : ∀ dialect ∈ Dialect.all, ∀ kind ∈ TypeKind.withoutArguments,
      (dialect.request (dialect.declare (.ofKind kind))).toOption =
        some (dialect.normalize (.ofKind kind)) := by
    decide +kernel
  have hread := hall dialect dialect.mem_all kind hkind
  cases hr : dialect.request (dialect.declare (.ofKind kind)) with
  | error e => simp [hr, Except.toOption] at hread
  | ok r =>
    rw [hr, Except.toOption, Option.some_inj] at hread
    rw [hread]

/-- Declaring such a kind and normalizing it look at nothing but the kind. -/
theorem declare_and_normalize_eq_ofKind (dialect : Dialect) {kind : TypeKind}
    (hkind : kind ∈ TypeKind.withoutArguments) (width : Option UInt32) (size : Option DecimalSize)
    (unicode : Bool) :
    dialect.declare ⟨kind, width, size, unicode⟩ = dialect.declare (.ofKind kind) ∧
      dialect.normalize ⟨kind, width, size, unicode⟩ = dialect.normalize (.ofKind kind) := by
  cases kind with
  | string | decimal | byteArray => exact absurd hkind (by decide)
  | _ => cases dialect <;> exact ⟨rfl, rfl⟩

/-! ## Every request -/

/-- What is declared for a decimal reads back as what the dialect keeps of it. -/
theorem exists_request_declareDecimal (dialect : Dialect) (width : Option UInt32)
    {size : Option DecimalSize} (unicode : Bool) (h : ∀ d ∈ size, d.IsRepresentable) :
    ∃ back, dialect.request (dialect.types.declareDecimal size) = .ok back ∧
      back.same (dialect.normalize ⟨.decimal, width, size, unicode⟩) = true := by
  have hkind := kindOf_declareDecimal dialect size
  have hsize := decimalSizeOf_declareDecimal dialect size
  have hsame := DecimalSize.ofPrecisionScale_same (isRepresentable_declared h)
  rw [normalize_decimal]
  generalize DecimalSize.declared size = d at hkind hsize hsame ⊢
  have hdecimal (hread : dialect.kindOf (dialect.types.declareDecimal size) = some .decimal) :
      ∃ back, dialect.request (dialect.types.declareDecimal size) = .ok back ∧
        back.same (.decimal d) = true := by
    refine ⟨.decimal (.ofPrecisionScale d.precision.toNat d.scale.toNat), ?_, ?_⟩
    · rw [Dialect.request, hread]
      simp only [hsize]
      rfl
    · simp [TypeRequest.same, TypeRequest.decimal, hsame]
  by_cases hwhole : dialect = .oracle ∧ d.scale.toNat = 0
  · rw [if_pos hwhole] at hkind ⊢
    cases hk : kindOfPrecision? d.precision.toNat with
    | none => exact hdecimal (by rw [hkind, hk]; rfl)
    | some kind =>
      rw [hk, Option.getD_some] at hkind
      refine ⟨.ofKind kind, ?_, TypeRequest.same_refl _⟩
      rcases kindOfPrecision?_eq_some hk with rfl | rfl | rfl | rfl | rfl <;>
        exact request_of_kindOf hkind (by decide) (by decide) (by decide)
  · rw [if_neg hwhole] at hkind ⊢
    exact hdecimal hkind

/-- A request is declared if its digits can be counted. -/
theorem declare?_eq_some (dialect : Dialect) {r : TypeRequest}
    (h : ∀ d ∈ r.decimalSize, d.IsRepresentable) :
    dialect.declare? r = some (dialect.declare r) := by
  obtain ⟨kind, width, size, unicode⟩ := r
  by_cases hdecimal : kind = .decimal
  · subst hdecimal
    rw [Dialect.declare?, TypeStyle.declare?, if_pos rfl]
    cases size with
    | none => rfl
    | some d => exact (declareDecimal?_some _ d).trans (if_pos (h d rfl))
  · exact if_neg hdecimal

theorem normalize?_eq_some (dialect : Dialect) {r : TypeRequest}
    (h : ∀ d ∈ r.decimalSize, d.IsRepresentable) :
    dialect.normalize? r = some (dialect.normalize r) := by
  obtain ⟨kind, width, size, unicode⟩ := r
  cases size with
  | none => cases kind <;> rfl
  | some d =>
    have hcounted : d.isEmpty? = some d.isEmpty :=
      (DecimalSize.isEmpty?_eq d).trans (if_pos (h d rfl))
    rw [Dialect.normalize?]
    simp only [hcounted]
    cases kind <;> rfl

/-- What is declared for a request reads back as what the dialect keeps of it. -/
theorem exists_request_declare (dialect : Dialect) (r : TypeRequest)
    (h : ∀ d ∈ r.decimalSize, d.IsRepresentable) :
    ∃ back, dialect.request (dialect.declare r) = .ok back ∧
      back.same (dialect.normalize r) = true := by
  obtain ⟨kind, width, size, unicode⟩ := r
  by_cases hstring : kind = .string
  · subst hstring
    rw [show dialect.declare ⟨.string, width, size, unicode⟩ =
      dialect.types.declareString width unicode from rfl, request_declareString, normalize_string]
    exact ⟨_, rfl, TypeRequest.same_refl _⟩
  by_cases hbytes : kind = .byteArray
  · subst hbytes
    rw [show dialect.declare ⟨.byteArray, width, size, unicode⟩ =
      dialect.types.declareBytes width from rfl, request_declareBytes, normalize_byteArray]
    exact ⟨_, rfl, TypeRequest.same_refl _⟩
  by_cases hdecimal : kind = .decimal
  · subst hdecimal
    exact exists_request_declareDecimal dialect width unicode h
  · have hkind := TypeKind.mem_withoutArguments hstring hbytes hdecimal
    obtain ⟨hdeclare, hnormalize⟩ :=
      declare_and_normalize_eq_ofKind dialect hkind width size unicode
    rw [hdeclare, hnormalize, request_declare_ofKind dialect hkind]
    exact ⟨_, rfl, TypeRequest.same_refl _⟩

/-! ## Normalizing twice -/

/-- A width that has been brought between 1 and a limit stays as it is. -/
theorem limited_limited {limit : UInt32} (h : 1 ≤ limit) (width : Option UInt32) :
    ((((width.filter (· ≤ limit)).map fun w => max w 1).filter (· ≤ limit)).map
        fun w => max w 1) = (width.filter (· ≤ limit)).map fun w => max w 1 := by
  cases hw : width.filter (· ≤ limit) with
  | none => rfl
  | some w =>
    have hle : w ≤ limit := by simpa using (Option.filter_eq_some_iff.mp hw).2
    rw [UInt32.le_iff_toNat_le] at h hle
    have hmax : max w 1 ≤ limit := by
      rw [UInt32.le_iff_toNat_le, toNat_max]
      omega
    have htwice : max (max w 1) 1 = max w 1 := by
      rw [← UInt32.toNat_inj]
      simp only [toNat_max]
      omega
    rw [Option.map_some, Option.filter_some, decide_eq_true hmax, if_pos rfl, Option.map_some,
      htwice]

/-- Dialects that make no difference between plain and unicode strings have one limit for both. -/
theorem inlineWidth_marksUnicode (dialect : Dialect) (width : Option UInt32) (unicode : Bool) :
    dialect.types.inlineWidth width (dialect.marksUnicode && unicode) =
      dialect.types.inlineWidth width unicode := by
  cases dialect <;> cases unicode <;> rfl

theorem inlineWidth_inlineWidth (dialect : Dialect) (width : Option UInt32) (unicode : Bool) :
    dialect.types.inlineWidth (dialect.types.inlineWidth width unicode) unicode =
      dialect.types.inlineWidth width unicode := by
  refine limited_limited ?_ width
  cases dialect <;> cases unicode <;> decide

theorem DecimalSize.declared_declared (size : Option DecimalSize) :
    declared (some (declared size)) = declared size := by
  have hempty : (declared size).isEmpty = false := by
    rw [declared]
    cases hd : size.filter fun d => !d.isEmpty with
    | none => decide
    | some d => simpa using (Option.filter_eq_some_iff.mp hd).2
  simp [declared.eq_1 (some _), Option.filter_some, hempty]

/-- What a dialect keeps of a request it keeps for good. -/
theorem normalize_idem (dialect : Dialect) (r : TypeRequest) :
    dialect.normalize (dialect.normalize r) = dialect.normalize r := by
  obtain ⟨kind, width, size, unicode⟩ := r
  cases kind with
  | string =>
    simp only [normalize_string, inlineWidth_marksUnicode, inlineWidth_inlineWidth,
      ← Bool.and_assoc, Bool.and_self]
  | decimal =>
    rw [normalize_decimal]
    cases hk : (if dialect = .oracle ∧ (DecimalSize.declared size).scale.toNat = 0 then
        kindOfPrecision? (DecimalSize.declared size).precision.toNat else none) with
    | none =>
      have htwice := normalize_decimal dialect none (some (DecimalSize.declared size)) false
      rw [DecimalSize.declared_declared, hk] at htwice
      exact htwice
    | some kind =>
      have hwhole := (Option.ite_none_right_eq_some.mp hk).1
      have hkind := kindOfPrecision?_eq_some (Option.ite_none_right_eq_some.mp hk).2
      rw [hwhole.1]
      rcases hkind with rfl | rfl | rfl | rfl | rfl <;> rfl
  | byteArray =>
    cases dialect with
    | mssql => exact congrArg TypeRequest.byteArray (limited_limited (by decide) width)
    | _ => rfl
  | _ => cases dialect <;> rfl

/-- **Every request comes back as what the dialect keeps of it**, and declaring what came back
changes nothing more.  Sizes are compared by their counts, an absent one counting as 0.  All digits
can be counted on the way. -/
theorem request_declare_same_normalize (dialect : Dialect) (r : TypeRequest)
    (h : ∀ d ∈ r.decimalSize, d.IsRepresentable) :
    (dialect.declare? r = some (dialect.declare r) ∧
      dialect.normalize? r = some (dialect.normalize r)) ∧
    (∃ back, dialect.request (dialect.declare r) = .ok back ∧
      back.same (dialect.normalize r) = true) ∧
    dialect.normalize (dialect.normalize r) = dialect.normalize r :=
  ⟨⟨declare?_eq_some dialect h, normalize?_eq_some dialect h⟩,
    exists_request_declare dialect r h, normalize_idem dialect r⟩

/-- Oracle takes a decimal of five digits, none of them behind the point, for a small integer. -/
theorem request_declare_number_five :
    (∀ d ∈ (TypeRequest.decimal (.ofDigits 5 0)).decimalSize, d.IsRepresentable) ∧
    (∃ back, Dialect.oracle.request (Dialect.oracle.declare (.decimal (.ofDigits 5 0))) = .ok back ∧
      back.same (Dialect.oracle.normalize (.decimal (.ofDigits 5 0))) = true) ∧
    Dialect.oracle.normalize (.decimal (.ofDigits 5 0)) = .ofKind .int16 := by
  have h : ∀ d ∈ (TypeRequest.decimal (.ofDigits 5 0)).decimalSize, d.IsRepresentable := by decide
  exact ⟨h, (request_declare_same_normalize .oracle (.decimal (.ofDigits 5 0)) h).2.1, by decide⟩

end SqlDialects
