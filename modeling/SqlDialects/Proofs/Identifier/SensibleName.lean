import SqlDialects.Proofs.Identifier

/-!
# Sensible names keep their letters

A sensible name is what is left of a text when everything but letters, digits and underscores is
taken out.  On the way words are joined and an underscore may come in front of a digit, but none of
this touches a plain character more than by its case: each step keeps the plain characters as they
are up to case (`filter_isPlain_trim`, `lower_joinWords`), or sets the one underscore
(`exists_guardDigit_eq`).  So a name is empty only if there was nothing to keep.

A name that is made is an identifier, and identifiers are left alone
(`IsIdentifier.sensibleName_eq`).  Hence making a sensible name twice is making it once.
-/

set_option autoImplicit false

namespace SqlDialects

open Text

/-! ## The steps -/

theorem filter_isPlain_of_blank {blanks : Chars} (h : ∀ c ∈ blanks, isBlank c = true) :
    blanks.filter isPlain = [] := by
  rw [List.filter_eq_nil_iff]
  intro c hc hplain
  exact absurd ((isBlank_of_isPlain hplain).symm.trans (h c hc)) Bool.false_ne_true

/-- Trimming takes no plain character. -/
theorem filter_isPlain_trim (s : Chars) : (trim s).filter isPlain = s.filter isPlain := by
  obtain ⟨front, hfront, hfront'⟩ := exists_blanks_append_trimStart s
  obtain ⟨back, hback, hback'⟩ := exists_trimEnd_append_blanks (trimStart s)
  calc (trim s).filter isPlain = (trimEnd (trimStart s) ++ back).filter isPlain := by
        rw [List.filter_append, filter_isPlain_of_blank (allBlank_iff.mp hback'), List.append_nil,
          trim]
    _ = (front ++ trimStart s).filter isPlain := by
        rw [← hback, List.filter_append, filter_isPlain_of_blank hfront', List.nil_append]
    _ = s.filter isPlain := by rw [← hfront]

/-- Joining words takes the spaces between them and nothing else, up to case. -/
theorem lower_joinWords {raise : Bool} {s : Chars} (h : ∀ c ∈ s, isPlain c = true ∨ c = ' ') :
    lower (joinWords raise s) = lower (s.filter isPlain) := by
  induction s generalizing raise with
  | nil => rfl
  | cons c s ih =>
    obtain ⟨hc, hs⟩ := List.forall_mem_cons.mp h
    rw [joinWords]
    split
    · next hspace =>
      rw [hspace, List.filter_cons_of_neg (by decide)]
      exact ih hs
    · next hspace =>
      have hplain := hc.resolve_right hspace
      have hcase : (if raise = true then c.toUpper else c).toLower = c.toLower := by
        split
        · exact of_isPlain (fun c => c.toUpper.toLower = c.toLower) (by decide +kernel) hplain
        · rfl
      have hrest : (joinWords false s).map Char.toLower = (s.filter isPlain).map Char.toLower :=
        ih hs
      rw [List.filter_cons_of_pos hplain, lower, lower, List.map_cons, List.map_cons, hcase, hrest]

theorem joinWords_of_isPlain {s : Chars} (h : ∀ c ∈ s, isPlain c = true) :
    joinWords false s = s := by
  induction s with
  | nil => rfl
  | cons c s ih =>
    obtain ⟨hc, hs⟩ := List.forall_mem_cons.mp h
    have hspace : c ≠ ' ' := by
      rintro rfl
      exact absurd hc (by decide)
    rw [joinWords, if_neg hspace, if_neg Bool.false_ne_true, ih hs]

/-- What comes in front is an underscore before a digit, or nothing. -/
theorem exists_guardDigit_eq (s : Chars) :
    ∃ front, guardDigit s = front ++ s ∧
      (front = [] ∨ front = ['_'] ∧ ∃ c ∈ s.head?, c.isDigit = true) := by
  cases s with
  | nil => exact ⟨[], rfl, .inl rfl⟩
  | cons c s =>
    rw [guardDigit]
    split
    · next hdigit => exact ⟨['_'], rfl, .inr ⟨rfl, c, rfl, hdigit⟩⟩
    · exact ⟨[], rfl, .inl rfl⟩

/-! ## The whole name -/

/-- **A sensible name is spelled like the text**, up to case and an underscore in front. -/
theorem exists_sensibleName_eq (text : Chars) :
    ∃ front body, sensibleName text = front ++ body ∧
      (front = [] ∨ front = ['_'] ∧ ∃ c ∈ body.head?, c.isDigit = true) ∧
      lower body = lower (text.filter isPlain) := by
  obtain ⟨front, hname, hfront⟩ := exists_guardDigit_eq
    (joinWords false (trim (text.filter fun c => isPlain c || c == ' ')))
  refine ⟨front, _, hname, hfront, ?_⟩
  have hkept : ∀ c ∈ trim (text.filter fun c => isPlain c || c == ' '),
      isPlain c = true ∨ c = ' ' := by
    intro c hc
    simpa using (List.mem_filter.mp (mem_of_mem_trim hc)).2
  have habsorb : (fun c => isPlain c && (isPlain c || c == ' ')) = isPlain := by
    funext c
    cases isPlain c <;> rfl
  rw [lower_joinWords hkept, filter_isPlain_trim, List.filter_filter, habsorb]

/-- Nothing is left of a text just when there is nothing plain in it. -/
theorem sensibleName_eq_nil_iff {text : Chars} :
    sensibleName text = [] ↔ ∀ c ∈ text, isPlain c = false := by
  obtain ⟨front, body, hname, hfront, hbody⟩ := exists_sensibleName_eq text
  have hempty : body = [] ↔ ∀ c ∈ text, isPlain c = false := by
    rw [← List.map_eq_nil_iff (f := Char.toLower), ← lower, hbody, lower, List.map_eq_nil_iff,
      List.filter_eq_nil_iff]
    simp
  rw [hname, List.append_eq_nil_iff, ← hempty]
  refine ⟨And.right, fun hnil => ⟨?_, hnil⟩⟩
  obtain hnone | ⟨-, c, hc, -⟩ := hfront
  · exact hnone
  · rw [hnil] at hc
    contradiction

/-- **An identifier is sensible already.** -/
theorem IsIdentifier.sensibleName_eq {name : Chars} (h : IsIdentifier name) :
    sensibleName name = name := by
  have hplain := h.allPlain
  have hkept : name.filter (fun c => isPlain c || c == ' ') = name :=
    List.filter_eq_self.mpr fun c hc => by rw [hplain c hc, Bool.true_or]
  have hguard : guardDigit name = name := by
    cases name with
    | nil => rfl
    | cons c s =>
      have hdigit : c.isDigit = false := of_isPlain
        (fun c => c.isAlpha = true ∨ c = '_' → c.isDigit = false) (by decide +kernel)
        (hplain c List.mem_cons_self) h.1
      rw [guardDigit, hdigit, if_neg Bool.false_ne_true]
  rw [sensibleName, hkept, trim_of_solid fun c hc => isBlank_of_isPlain (hplain c hc),
    joinWords_of_isPlain hplain, hguard]

theorem sensibleName_sensibleName (text : Chars) :
    sensibleName (sensibleName text) = sensibleName text := by
  obtain hnil | hname := sensibleName_eq_nil_or_isIdentifier text
  · rw [hnil]
    rfl
  · exact hname.sensibleName_eq

/-! ## Constraints -/

/-- The names of constraints that are made with plain words are identifiers. -/
theorem isIdentifier_constraintNames {word other : String}
    (hword : ∀ c ∈ word.toList, isPlain c = true) (hother : ∀ c ∈ other.toList, isPlain c = true) :
    IsIdentifier ("PK_" ++ word).toList ∧ IsIdentifier ("FK_" ++ word ++ "_" ++ other).toList := by
  have hprimary : IsIdentifier "PK_".toList := ⟨.inl rfl, List.all_eq_true.mp (by decide)⟩
  have hforeign : IsIdentifier "FK_".toList := ⟨.inl rfl, List.all_eq_true.mp (by decide)⟩
  simp only [String.toList_append]
  refine ⟨hprimary.append hword, ((hforeign.append hword).append ?_).append hother⟩
  exact List.all_eq_true.mp (by decide)

/-! ## All of it -/

/-- **Sensible names.**  A sensible name is an identifier, unless there is nothing plain in the text
and the name is empty.  It holds the plain characters of the text in their order, up to case, and
perhaps an underscore in front of a digit, and it is left alone if it is taken for a text.  So the
names of constraints are identifiers, whichever plain token stands in for a name of which nothing is
left. -/
theorem sensibleName_spelled_plainly (text : Chars) :
    (sensibleName text = [] ∨ IsIdentifier (sensibleName text)) ∧
    (sensibleName text = [] ↔ ∀ c ∈ text, isPlain c = false) ∧
    (∃ front body, sensibleName text = front ++ body ∧
      (front = [] ∨ front = ['_'] ∧ ∃ c ∈ body.head?, c.isDigit = true) ∧
      lower body = lower (text.filter isPlain)) ∧
    sensibleName (sensibleName text) = sensibleName text ∧
    (∀ (first second : NameToken) (table other : String),
      IsIdentifier (primaryKeyName first table).toList ∧
      IsIdentifier (foreignKeyName first second table other).toList) ∧
    ∀ token token' : Chars, (∀ c ∈ token ++ token', isPlain c = true) → ∀ table other : String,
      IsIdentifier ("PK_" ++ constraintWordOf token table).toList ∧
      IsIdentifier ("FK_" ++ constraintWordOf token table ++ "_" ++
        constraintWordOf token' other).toList := by
  refine ⟨sensibleName_eq_nil_or_isIdentifier text, sensibleName_eq_nil_iff,
    exists_sensibleName_eq text, sensibleName_sensibleName text,
    fun first second table other => ?_, fun token token' htoken table other => ?_⟩
  · exact isIdentifier_constraintNames (constraintWordOf_isPlain first.plain table)
      (constraintWordOf_isPlain second.plain other)
  · rw [List.forall_mem_append] at htoken
    exact isIdentifier_constraintNames (constraintWordOf_isPlain htoken.1 table)
      (constraintWordOf_isPlain htoken.2 other)

/-- Blanks at the ends and between the words, a digit in front, a letter that is not plain; and a
table of whose name nothing is left. -/
theorem sensibleName_spelled_plainly_lives :
    sensibleName " 9  lives (née) ".toList = "_9LivesNe".toList ∧
    sensibleName "_9LivesNe".toList = "_9LivesNe".toList ∧
    (∀ c ∈ "0fe1a2b3".toList ++ [], isPlain c = true) ∧
    "PK_" ++ constraintWordOf "0fe1a2b3".toList "###" = "PK_Constraint0fe1a2b3" ∧
    IsIdentifier "PK_Constraint0fe1a2b3".toList := by
  have hname : sensibleName " 9  lives (née) ".toList = "_9LivesNe".toList := by decide +kernel
  have htoken : ∀ c ∈ "0fe1a2b3".toList ++ [], isPlain c = true := List.all_eq_true.mp (by decide)
  have hprimary : "PK_" ++ constraintWordOf "0fe1a2b3".toList "###" = "PK_Constraint0fe1a2b3" := by
    decide +kernel
  obtain ⟨-, -, -, hagain, -, hnames⟩ :=
    sensibleName_spelled_plainly " 9  lives (née) ".toList
  rw [hname] at hagain
  exact ⟨hname, hagain, htoken, hprimary, hprimary ▸ (hnames _ [] htoken "###" "").1⟩

end SqlDialects
