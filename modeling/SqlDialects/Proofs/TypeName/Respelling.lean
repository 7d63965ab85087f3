import SqlDialects.Proofs.TypeName.Strictness

/-!
# The same type in another spelling

What is asked about a type name is its request, the length of a string and the size of a decimal.
This file says when two names that are spelled alike get the same answers
(`answers_respelled_iff`).

* **Sizes of decimals** always agree, and so does everything else that is read out of a name, once
  the kinds are the same (`answersAlike_iff`): all of it is found in the tight name.
* **Kinds** agree just when both names are read strictly or neither is
  (`map_kind_familyOf_eq_iff`).  If one is and the other is not, a family takes the first by a
  strict spelling and no family of the same kind takes the second.

A strict spelling is a neat one, without blanks next to parentheses and commas other than the one
between a closing parenthesis and a word (`neat_eq_self`).  So `int(10)` is a number and `int (10)`
is unknown.  Oracle leaves some room: behind the comma of a whole number, and in a string type
behind the first parenthesis.  There a name need not be neat to be read strictly, but the neat name
is read as strictly (`takesStrictly_neat`) and by the same family (`takesStrictly_unique`).
-/

set_option autoImplicit false

namespace SqlDialects

open Text

/-! ## Neat names -/

/-- Puts a blank behind each closing parenthesis that is followed by a word. -/
def loosen : Chars → Chars
  | [] => []
  | c :: s =>
    if c = ')' ∧ s.head?.any (fun d => !isMark d) then c :: ' ' :: loosen s else c :: loosen s

/-- The text without blanks next to its marks, except between a closing parenthesis and a word. -/
def neat (s : Chars) : Chars := loosen (tight s)

theorem loosen_append {x : Chars} (hx : ')' ∉ x) (s : Chars) : loosen (x ++ s) = x ++ loosen s := by
  induction x with
  | nil => rfl
  | cons c x ih =>
    simp only [List.mem_cons, not_or] at hx
    rw [List.cons_append, loosen, if_neg fun h => hx.1 h.1.symm, ih hx.2]
    rfl

theorem tight_append_paren {name : Chars} (h : isPlainName name = true) (s : Chars) :
    tight (name ++ '(' :: s) = name ++ '(' :: tightFrom true s := by
  have hafter := after?_tight h (name ++ '(' :: s)
  rw [after?_eq_some_iff.mpr rfl] at hafter
  exact after?_eq_some_iff.mp hafter

theorem tightFrom_digits {digits : Chars} (h : ∀ c ∈ digits, isAnyDigit c = true) {c : Char}
    (hc : c ≠ ' ') (s : Chars) (afterMark : Bool) :
    tightFrom afterMark (digits ++ c :: s) = digits ++ c :: tightFrom (isMark c) s := by
  induction digits generalizing afterMark with
  | nil => exact tightFrom_cons_of_ne hc afterMark s
  | cons d digits ih =>
    have hd := h d List.mem_cons_self
    rw [List.cons_append, tightFrom_cons_of_ne (ne_blank_of_isAnyDigit hd),
      ih fun c hc => h c (List.mem_cons_of_mem d hc)]
    rfl

theorem neat_of_isOneOf {names : List String}
    (hnames : ∀ name ∈ names, neat name.toList = name.toList) {t : Chars}
    (h : isOneOf names t = true) : neat t = t := by
  obtain ⟨name, hname, heq⟩ := List.any_eq_true.mp h
  rw [← beq_iff_eq.mp heq, hnames name hname]

/-- The digits between parentheses stay as they are. -/
theorem neat_sized {name digits : Chars} (hname : isPlainName name = true)
    (hdigits : ∀ c ∈ digits, isAnyDigit c = true) {c : Char} (hc : c ≠ ' ') (s : Chars) :
    neat (name ++ '(' :: (digits ++ c :: s)) =
      name ++ '(' :: (digits ++ loosen (c :: tightFrom (isMark c) s)) := by
  have hplain : ')' ∉ name := fun h => Bool.noConfusion (isMark_of_mem hname _ h)
  have hdigit : ')' ∉ digits := fun h =>
    Bool.noConfusion ((isAnyDigit_of_isMark rfl).symm.trans (hdigits ')' h))
  have hparen (s : Chars) : loosen ('(' :: s) = '(' :: loosen s := by
    rw [loosen, if_neg fun h => absurd h.1 (by decide)]
  rw [neat, tight_append_paren hname, tightFrom_digits hdigits hc, loosen_append hplain, hparen,
    loosen_append hdigit]

theorem neat_of_isSized {names endings : List String}
    (hnames : ∀ name ∈ names, isPlainName name.toList = true)
    (hendings : ∀ ending ∈ endings,
      loosen (')' :: tightFrom true ending.toList) = ')' :: ending.toList)
    (hplain : ∀ name ∈ names, ∀ ending ∈ endings,
      neat (name.toList ++ ending.toList) = name.toList ++ ending.toList)
    {t : Chars} (h : isSized names endings t = true) : neat t = t := by
  obtain ⟨name, hname, ending, hending, rfl | ⟨digits, hdigits, rfl⟩⟩ := eq_of_isSized h
  · exact hplain name hname ending hending
  · rw [neat_sized (hnames name hname) hdigits (by decide)]
    exact congrArg (fun s => name.toList ++ '(' :: (digits ++ s)) (hendings ending hending)

/-- Only in Oracle a strict name need not be neat. -/
theorem neat_eq_self {dialect : Dialect} {family : TypeFamily} {t : Chars}
    (h : dialect.takesStrictly family t = true)
    (hfamily : dialect = .oracle → family = .floatingPoint ∨ family = .time) : neat t = t := by
  have hsized {names endings : List String} (h : isSized names endings t = true)
      (hall : (∀ name ∈ names, isPlainName name.toList = true) ∧
        (∀ ending ∈ endings,
          loosen (')' :: tightFrom true ending.toList) = ')' :: ending.toList) ∧
        ∀ name ∈ names, ∀ ending ∈ endings,
          neat (name.toList ++ ending.toList) = name.toList ++ ending.toList) : neat t = t :=
    neat_of_isSized hall.1 hall.2.1 hall.2.2 h
  cases family with
  | byteArray | decimal | date | guid => cases dialect <;> contradiction
  | bool =>
    cases dialect with
    | oracle => simp at hfamily
    | _ => exact neat_of_isOneOf (by decide) h
  | byte | smallInt | int | long =>
    cases dialect with
    | oracle => simp at hfamily
    | _ => exact hsized h (by decide)
  | floatingPoint | time => cases dialect <;> exact hsized h (by decide)
  | string =>
    cases dialect with
    | oracle => simp at hfamily
    | _ => contradiction

/-! ## Oracle's strict names -/

theorem wholeNumberPrecision?_append {name : String}
    (hname : name ∈ ["number", "numeric", "decimal"]) {digits rest : Chars} (hne : digits ≠ [])
    (hdigits : ∀ c ∈ digits, isAnyDigit c = true) (hrest : ClosesWholeNumber rest)
    {precision : Nat} (hread : (readNat digits).filter (· ≤ 4294967295) = some precision) :
    wholeNumberPrecision? (name.toList ++ '(' :: (digits ++ rest)) = some precision := by
  have hnumeral : takeNumeral (digits ++ rest) = some (digits, rest) := by
    rcases hrest with rfl | ⟨tail, rfl, -⟩ <;> exact takeNumeral_append hne hdigits (by decide) _
  -- the word in front of the parenthesis is one of the three, and no other
  have hafter : ∀ other ∈ ["number", "numeric", "decimal"],
      after? (other ++ "(").toList (name.toList ++ '(' :: (digits ++ rest)) =
        if other = name then some (digits ++ rest) else none := by
    simp only [List.mem_cons, List.not_mem_nil, or_false] at hname ⊢
    rintro other (rfl | rfl | rfl) <;> rcases hname with rfl | rfl | rfl <;> rfl
  obtain ⟨earlier, later, hsplit, hnot⟩ := List.eq_append_cons_of_mem hname
  rw [wholeNumberPrecision?, List.findSome?_eq_some_iff]
  refine ⟨earlier, name, later, hsplit, ?_, fun other hother => ?_⟩
  · simp only [hafter name hname, if_pos, Option.bind_eq_bind, Option.bind_some, hnumeral]
    rcases hrest with rfl | ⟨tail, rfl, htail⟩
    · exact hread
    · simpa [htail] using hread
  · have hne : other ≠ name := fun h => hnot (h ▸ hother)
    simp only [hafter other (hsplit ▸ List.mem_append_left _ hother), if_neg hne, Option.bind_none,
      Option.bind_eq_bind]

theorem closesWholeNumber_neat {rest : Chars} (h : ClosesWholeNumber rest) :
    ∃ c s, rest = c :: s ∧ c ≠ ' ' ∧ ClosesWholeNumber (loosen (c :: tightFrom (isMark c) s)) := by
  rcases h with rfl | ⟨tail, rfl, htail⟩
  · exact ⟨')', [], rfl, by decide, .inl rfl⟩
  · refine ⟨',', tail, rfl, by decide, .inr ⟨loosen (tightFrom true tail), rfl, ?_⟩⟩
    have htight : trimStart (tightFrom true tail) = ['0', ')'] := by
      rw [trimStart_tightFrom, htail]
      rfl
    obtain ⟨blanks, hblanks, hall⟩ := exists_blanks_append_trimStart (tightFrom true tail)
    have hclose : ')' ∉ blanks := fun h => Bool.noConfusion (hall ')' h)
    rw [hblanks, htight, loosen_append hclose, trimStart, List.dropWhile_append_of_pos hall]
    rfl

/-- The blank behind the comma of a whole number does not matter. -/
theorem wholeNumberKind?_neat {t : Chars} {kind : TypeKind} (h : wholeNumberKind? t = some kind) :
    wholeNumberKind? (neat t) = some kind := by
  have hplain : ∀ name ∈ ["number", "numeric", "decimal"], isPlainName name.toList = true := by
    decide
  obtain ⟨precision, hprecision, hkind⟩ := Option.bind_eq_some_iff.mp h
  obtain ⟨name, hname, digits, rest, hne, hdigits, rfl, hrest, hread⟩ :=
    eq_of_wholeNumberPrecision? hprecision
  obtain ⟨c, s, rfl, hc, hneat⟩ := closesWholeNumber_neat hrest
  rw [neat_sized (hplain name hname) hdigits hc, wholeNumberKind?,
    wholeNumberPrecision?_append hname hne hdigits hneat hread, Option.bind_some, hkind]

/-- What stands behind the first parenthesis of a string type does not matter. -/
theorem isOneOf_takeWhile_neat {names : List String}
    (hnames : ∀ name ∈ names, isPlainName name.toList = true ∧ neat name.toList = name.toList)
    {t : Chars} (h : isOneOf names (t.takeWhile (· != '(')) = true) :
    isOneOf names ((neat t).takeWhile (· != '(')) = true := by
  obtain ⟨name, hname, rfl | ⟨rest, rfl⟩⟩ := eq_of_isOneOf_takeWhile h
  · rw [(hnames name hname).2]
    exact h
  · have hmark := isMark_of_mem (hnames name hname).1
    have hclose : ')' ∉ name.toList := fun h => Bool.noConfusion (hmark _ h)
    have hopen : ∀ c ∈ name.toList, (c != '(') = true := fun c hc =>
      bne_iff_ne.mpr fun heq => Bool.noConfusion (hmark '(' (heq ▸ hc))
    have hneat : neat (name.toList ++ '(' :: rest) =
        name.toList ++ '(' :: loosen (tightFrom true rest) := by
      rw [neat, tight_append_paren (hnames name hname).1, loosen_append hclose, loosen,
        if_neg fun h => absurd h.1 (by decide)]
    rw [hneat, List.takeWhile_append_of_pos hopen, List.takeWhile_cons_of_neg (by decide),
      List.append_nil]
    exact List.any_eq_true.mpr ⟨name, hname, beq_self_eq_true _⟩

/-- **A neat name is read as strictly as any.** -/
theorem takesStrictly_neat {dialect : Dialect} {family : TypeFamily} {t : Chars}
    (h : dialect.takesStrictly family t = true) : dialect.takesStrictly family (neat t) = true := by
  by_cases hneat : dialect = .oracle → family = .floatingPoint ∨ family = .time
  · rw [neat_eq_self h hneat, h]
  obtain ⟨rfl, hfamily⟩ := Classical.not_imp.mp hneat
  have hnumber {kind : TypeKind} (h : (wholeNumberKind? t == some kind) = true) :
      (wholeNumberKind? (neat t) == some kind) = true :=
    beq_iff_eq.mpr (wholeNumberKind?_neat (beq_iff_eq.mp h))
  cases family with
  | byteArray | decimal | date | guid => contradiction
  | floatingPoint | time => simp at hfamily
  | bool | byte | smallInt | long => exact hnumber h
  | int =>
    refine Bool.or_eq_true_iff.mpr ((Bool.or_eq_true_iff.mp h).imp (fun hstar => ?_) hnumber)
    rw [neat_of_isOneOf (by decide) hstar, hstar]
  | string => exact isOneOf_takeWhile_neat (by decide) h

/-- The families that Oracle knows by the precision of a number. -/
def TypeFamily.wholeNumbers : List TypeFamily := [bool, byte, smallInt, int, long]

theorem wholeNumberKind?_of_takesStrictly {family : TypeFamily}
    (hfamily : family ∈ TypeFamily.wholeNumbers) {t : Chars}
    (h : Dialect.oracle.takesStrictly family t = true) :
    family = .int ∧ t = "number(*,0)".toList ∨ wholeNumberKind? t = some family.kind := by
  simp only [TypeFamily.wholeNumbers, List.mem_cons, List.not_mem_nil, or_false] at hfamily
  rcases hfamily with rfl | rfl | rfl | rfl | rfl
  · exact .inr (beq_iff_eq.mp h)
  · exact .inr (beq_iff_eq.mp h)
  · exact .inr (beq_iff_eq.mp h)
  · refine (Bool.or_eq_true_iff.mp h).imp (fun hstar => ⟨rfl, ?_⟩) beq_iff_eq.mp
    obtain ⟨name, hname, heq⟩ := List.any_eq_true.mp hstar
    obtain rfl := List.mem_singleton.mp hname
    exact (beq_iff_eq.mp heq).symm
  · exact .inr (beq_iff_eq.mp h)

/-- No two families take the same name strictly in Oracle. -/
theorem takesStrictly_unique {family other : TypeFamily} {t : Chars}
    (h : Dialect.oracle.takesStrictly family t = true)
    (hother : Dialect.oracle.takesStrictly other t = true) : family = other := by
  have hapart : ∀ family ∈ TypeFamily.all, ∀ other ∈ TypeFamily.all, family ≠ other →
      (∃ word ∈ Dialect.oracle.strictWords family,
        isOneOf (Dialect.oracle.strictWords other) word.toList = true) →
      family ∈ TypeFamily.wholeNumbers ∧ other ∈ TypeFamily.wholeNumbers := by
    decide +kernel
  have hstar : wholeNumberKind? "number(*,0)".toList = none := by rfl
  have hkinds : ∀ family ∈ TypeFamily.wholeNumbers, ∀ other ∈ TypeFamily.wholeNumbers,
      family.kind = other.kind → family = other := by
    decide
  refine Decidable.byContradiction fun hne => ?_
  obtain ⟨word, hword, heq⟩ := List.any_eq_true.mp (firstWord_of_takesStrictly h)
  obtain ⟨hfamily, hwhole⟩ := hapart family family.mem_all other other.mem_all hne
    ⟨word, hword, beq_iff_eq.mp heq ▸ firstWord_of_takesStrictly hother⟩
  rcases wholeNumberKind?_of_takesStrictly hfamily h with ⟨rfl, rfl⟩ | hkind <;>
    rcases wholeNumberKind?_of_takesStrictly hwhole hother with ⟨rfl, heq⟩ | hkind'
  · exact hne rfl
  · exact Option.some_ne_none _ (hkind'.symm.trans hstar)
  · exact Option.some_ne_none _ (hkind.symm.trans (heq ▸ hstar))
  · exact hne (hkinds family hfamily other hwhole (Option.some.inj (hkind.symm.trans hkind')))

/-! ## The same type in two spellings -/

/-- Whether the name is read by a strict spelling. -/
def Dialect.isStrictName (dialect : Dialect) (t : Chars) : Bool :=
  (dialect.strictFamilyOf t).isSome

section Respelled

variable {dialect : Dialect} {s t : Chars}

/-- Two strict names of one tight spelling are taken by the same family. -/
theorem strictFamilyOf_eq (h : tight s = tight t) {family other : TypeFamily}
    (hs : dialect.strictFamilyOf s = some family) (ht : dialect.strictFamilyOf t = some other) :
    family = other := by
  have hneat : neat s = neat t := congrArg loosen h
  have hfamily := List.find?_some hs
  have hother := List.find?_some ht
  by_cases hdialect : dialect = .oracle
  · subst hdialect
    exact takesStrictly_unique (takesStrictly_neat hfamily)
      (hneat ▸ takesStrictly_neat hother)
  · have heq : s = t := by
      rw [← neat_eq_self hfamily fun h => absurd h hdialect, hneat,
        neat_eq_self hother fun h => absurd h hdialect]
    rw [heq, ht] at hs
    exact (Option.some.inj hs).symm

/-- A strict name and one that is not have different kinds, if the tight spelling is the same. -/
theorem kind_ne_of_strict (h : tight s = tight t) {family : TypeFamily}
    (hs : dialect.strictFamilyOf s = some family) (ht : dialect.strictFamilyOf t = none) :
    (dialect.familyOf s).map TypeFamily.kind ≠ (dialect.familyOf t).map TypeFamily.kind := by
  have hfamily := List.find?_some hs
  rw [familyOf_of_strict hs, familyOf_of_not_strict ht, ← h]
  intro heq
  obtain ⟨other, hother, hkind⟩ := Option.map_eq_some_iff.mp heq.symm
  have hloose : dialect.takesLoosely other (tight s) = true := by
    simpa using List.find?_some hother
  rw [takesLoosely_tight, takesLoosely_eq_false hfamily (.inr hkind)] at hloose
  contradiction

/-- The kind of a name is told by its tight spelling and by whether it is read strictly. -/
theorem map_kind_familyOf_eq_iff (h : tight s = tight t) :
    (dialect.familyOf s).map TypeFamily.kind = (dialect.familyOf t).map TypeFamily.kind ↔
      dialect.isStrictName s = dialect.isStrictName t := by
  rw [Dialect.isStrictName, Dialect.isStrictName]
  cases hs : dialect.strictFamilyOf s with
  | none =>
    cases ht : dialect.strictFamilyOf t with
    | none => simp [familyOf_of_not_strict hs, familyOf_of_not_strict ht, h]
    | some other => simpa using (kind_ne_of_strict h.symm ht hs).symm
  | some family =>
    cases ht : dialect.strictFamilyOf t with
    | none => simpa using kind_ne_of_strict h hs ht
    | some other => simp [familyOf_of_strict hs, familyOf_of_strict ht, strictFamilyOf_eq h hs ht]

end Respelled

/-! ## Answers -/

/-- The two type names are requests for the same type or both unknown, and strings of the same
length or both none. -/
def Dialect.AnswersAlike (dialect : Dialect) (a b : String) : Prop :=
  dialect.stringLength a = dialect.stringLength b ∧
    ((∃ r, dialect.request a = .ok r ∧ dialect.request b = .ok r) ∨
      dialect.request a = .error (.unknownType a) ∧ dialect.request b = .error (.unknownType b))

section Answers

variable {a b : String}

theorem qualifierOf_eq (h : SpelledAlike a b) : qualifierOf a = qualifierOf b := by
  rw [qualifierOf, qualifierOf, ← firstQualifier_tightFrom _ false, ← tight, h.tight_eq, tight,
    firstQualifier_tightFrom]

theorem decimalSizeOf_eq (dialect : Dialect) (h : SpelledAlike a b) :
    dialect.decimalSizeOf a = dialect.decimalSizeOf b := by
  have hcommon (t : Chars) :
      commonlyRecognises .decimal (tight t) = commonlyRecognises .decimal t :=
    commonlyRecognises_tight (by decide) t
  have hdecimal (t : Chars) :
      dialect.recognises .decimal (tight t) = dialect.recognises .decimal t := by
    cases dialect <;> exact hcommon t
  rw [Dialect.decimalSizeOf, Dialect.decimalSizeOf, ← hdecimal, h.tight_eq, hdecimal,
    qualifierOf_eq h]

theorem isUnicode_eq (dialect : Dialect) (h : SpelledAlike a b) :
    dialect.isUnicode a = dialect.isUnicode b := by
  have hhead : ((canonicalName a).head? == some 'n') = ((canonicalName b).head? == some 'n') := by
    rw [← head?_tight_beq rfl (by decide), h.tight_eq, head?_tight_beq rfl (by decide)]
  cases dialect with
  | mysql | postgres => rfl
  | _ => exact hhead

theorem stringLength_eq (dialect : Dialect) (h : SpelledAlike a b)
    (hkind : dialect.kindOf a = dialect.kindOf b) :
    dialect.stringLength a = dialect.stringLength b := by
  have hunlimited : isUnlimitedString (canonicalName a) = isUnlimitedString (canonicalName b) := by
    rw [isUnlimitedString, isUnlimitedString, ← isOneOf_tight (by decide), h.tight_eq,
      isOneOf_tight (by decide)]
  have hchar : isOneOf ["char", "nchar", "character"] (canonicalName a) =
      isOneOf ["char", "nchar", "character"] (canonicalName b) := by
    rw [← isOneOf_tight (by decide), h.tight_eq, isOneOf_tight (by decide)]
  have hqualifier := qualifierOf_eq h
  rw [qualifierOf, qualifierOf] at hqualifier
  simp only [Dialect.stringLength, hkind, hunlimited, hchar, hqualifier]

theorem request_error_iff {dialect : Dialect} {sqlType : String} :
    dialect.request sqlType = .error (.unknownType sqlType) ↔ dialect.kindOf sqlType = none := by
  rw [Dialect.request]
  split <;> simp_all

theorem kind_of_request {dialect : Dialect} {sqlType : String} {r : TypeRequest}
    (h : dialect.request sqlType = .ok r) : dialect.kindOf sqlType = some r.kind := by
  rw [Dialect.request] at h
  split at h
  · contradiction
  all_goals
    obtain rfl := Except.ok.inj h
    assumption

/-- The answers are alike just when the kinds are the same. -/
theorem answersAlike_iff (dialect : Dialect) (h : SpelledAlike a b) :
    dialect.AnswersAlike a b ↔ dialect.kindOf a = dialect.kindOf b := by
  constructor
  · rintro ⟨-, ⟨r, ha, hb⟩ | ⟨ha, hb⟩⟩
    · rw [kind_of_request ha, kind_of_request hb]
    · rw [request_error_iff.mp ha, request_error_iff.mp hb]
  · intro hkind
    have hlength := stringLength_eq dialect h hkind
    refine ⟨hlength, ?_⟩
    cases hk : dialect.kindOf b with
    | none =>
      exact .inr ⟨request_error_iff.mpr (hkind.trans hk), request_error_iff.mpr hk⟩
    | some kind =>
      have hrequest : dialect.request a = dialect.request b := by
        rw [Dialect.request, Dialect.request, hkind, hk, Dialect.stringWidth, Dialect.stringWidth,
          hlength, isUnicode_eq dialect h, Dialect.byteWidth, Dialect.byteWidth, qualifierOf_eq h,
          decimalSizeOf_eq dialect h]
        cases kind <;> rfl
      obtain ⟨r, hr⟩ : ∃ r, dialect.request b = .ok r := by
        rw [Dialect.request, hk]
        cases kind <;> exact ⟨_, rfl⟩
      exact .inl ⟨r, hrequest.trans hr, hr⟩

/-- **When the spelling of a type does not matter.**  Names that are spelled alike declare the same
digits.  They have the same requests and lengths just when both are read by a strict spelling or
neither is.  Strict spellings are neat ones, except that in Oracle the neat one is not the only
one. -/
theorem answers_respelled_iff (dialect : Dialect) (h : SpelledAlike a b) :
    dialect.decimalSizeOf a = dialect.decimalSizeOf b ∧
      (dialect.AnswersAlike a b ↔
        dialect.isStrictName (canonicalName a) = dialect.isStrictName (canonicalName b)) ∧
      ∀ t, dialect.isStrictName t = true →
        dialect.isStrictName (neat t) = true ∧ (dialect ≠ .oracle → neat t = t) := by
  refine ⟨decimalSizeOf_eq dialect h, ?_, fun t ht => ?_⟩
  · rw [answersAlike_iff dialect h, Dialect.kindOf, Dialect.kindOf]
    exact map_kind_familyOf_eq_iff h.tight_eq
  · obtain ⟨family, hfamily, hstrict⟩ := List.find?_isSome.mp ht
    exact ⟨List.find?_isSome.mpr ⟨family, hfamily, takesStrictly_neat hstrict⟩,
      fun hdialect => neat_eq_self hstrict fun h => absurd h hdialect⟩

end Answers

/-- Blanks and capitals in the name of a string type. -/
theorem answers_respelled_varchar2 :
    SpelledAlike " VARCHAR2 ( 20\tChar )" "varchar2(20 char)" ∧
      Dialect.oracle.AnswersAlike " VARCHAR2 ( 20\tChar )" "varchar2(20 char)" := by
  have h : SpelledAlike " VARCHAR2 ( 20\tChar )" "varchar2(20 char)" := by decide +kernel
  exact ⟨h, (answers_respelled_iff .oracle h).2.1.mpr (by decide +kernel)⟩

/-- A blank before the width of an integer type makes it unknown. -/
theorem answers_not_alike_int :
    SpelledAlike "int (10)" "int(10)" ∧
      Dialect.mssql.request "int (10)" = .error (.unknownType "int (10)") ∧
      Dialect.mssql.request "int(10)" = .ok (.ofKind .int32) ∧
      ¬Dialect.mssql.AnswersAlike "int (10)" "int(10)" := by
  have hunknown : Dialect.mssql.request "int (10)" = .error (.unknownType "int (10)") := by rfl
  have hint : Dialect.mssql.request "int(10)" = .ok (.ofKind .int32) := by rfl
  refine ⟨by decide +kernel, hunknown, hint, ?_⟩
  rintro ⟨-, ⟨r, hr, -⟩ | ⟨-, herror⟩⟩
  · rw [hunknown] at hr
    cases hr
  · rw [hint] at herror
    cases herror

end SqlDialects
