import SqlDialects.Identifier
import SqlDialects.Proofs.Text.Trim

/-!
# Names of constraints are plain

The names of constraints stand in statements without quotes.  Whatever a table is called, they are
made of ASCII letters, digits and underscores: `sensibleName` leaves nothing else over, and the
digits that stand in for a name of which nothing is left are hexadecimal ones.  A sensible name that
is not empty does not begin with a digit either, so it is an identifier (`IsIdentifier`).
-/

set_option autoImplicit false

namespace SqlDialects

open Text

theorem toNat_lt_of_isPlain {c : Char} (h : isPlain c = true) : c.toNat < 128 := by
  rw [isPlain, Char.isAlphanum] at h
  delta Char.isAlpha Char.isUpper Char.isLower Char.isDigit at h
  simp only [Bool.or_eq_true, Bool.and_eq_true, decide_eq_true_eq, beq_iff_eq, ge_iff_le,
    UInt32.le_iff_toNat_le] at h
  rcases h with ((⟨-, h⟩ | ⟨-, h⟩) | ⟨-, h⟩) | rfl
  · exact Nat.lt_of_le_of_lt h (by decide)
  · exact Nat.lt_of_le_of_lt h (by decide)
  · exact Nat.lt_of_le_of_lt h (by decide)
  · decide

/-- Of plain characters it is enough to look at the ASCII ones. -/
theorem of_isPlain (P : Char → Prop)
    (hall : ∀ n < 128, isPlain (Char.ofNat n) = true → P (Char.ofNat n)) {c : Char}
    (h : isPlain c = true) : P c := by
  have hc := hall c.toNat (toNat_lt_of_isPlain h)
  rw [Char.ofNat_toNat] at hc
  exact hc h

theorem isPlain_toUpper {c : Char} (h : isPlain c = true) : isPlain c.toUpper = true :=
  of_isPlain (fun c => isPlain c.toUpper = true) (by decide +kernel) h

theorem isBlank_of_isPlain {c : Char} (h : isPlain c = true) : isBlank c = false :=
  of_isPlain (fun c => isBlank c = false) (by decide +kernel) h

theorem joinWords_isPlain {raise : Bool} {s : Chars} (h : ∀ c ∈ s, isPlain c = true ∨ c = ' ') :
    ∀ c ∈ joinWords raise s, isPlain c = true := by
  induction s generalizing raise with
  | nil => simp [joinWords]
  | cons d s ih =>
    rw [List.forall_mem_cons] at h
    rw [joinWords]
    split
    · exact ih h.2
    · next hd =>
      have hplain := h.1.resolve_right hd
      rw [List.forall_mem_cons]
      refine ⟨?_, ih h.2⟩
      split
      · exact isPlain_toUpper hplain
      · exact hplain

/-! ## Sensible names -/

/-- A letter or an underscore, then letters, digits and underscores, all of them ASCII. -/
def IsIdentifier : Chars → Prop
  | [] => False
  | c :: s => (c.isAlpha = true ∨ c = '_') ∧ ∀ d ∈ s, isPlain d = true

theorem isPlain_iff {c : Char} :
    isPlain c = true ↔ (c.isAlpha = true ∨ c = '_') ∨ c.isDigit = true := by
  rw [isPlain, Char.isAlphanum, Bool.or_eq_true, Bool.or_eq_true, beq_iff_eq, or_right_comm]

theorem IsIdentifier.ne_nil {name : Chars} (h : IsIdentifier name) : name ≠ [] := by
  rintro rfl
  exact h

theorem IsIdentifier.allPlain {name : Chars} (h : IsIdentifier name) :
    ∀ c ∈ name, isPlain c = true := by
  cases name with
  | nil => exact h.elim
  | cons c s => exact List.forall_mem_cons.mpr ⟨isPlain_iff.mpr (.inl h.1), h.2⟩

/-- An identifier may be made longer. -/
theorem IsIdentifier.append {name more : Chars} (h : IsIdentifier name)
    (hmore : ∀ c ∈ more, isPlain c = true) : IsIdentifier (name ++ more) := by
  cases name with
  | nil => exact h.elim
  | cons c s => exact ⟨h.1, List.forall_mem_append.mpr ⟨h.2, hmore⟩⟩

theorem guardDigit_eq_nil_or_isIdentifier {s : Chars} (h : ∀ c ∈ s, isPlain c = true) :
    guardDigit s = [] ∨ IsIdentifier (guardDigit s) := by
  cases s with
  | nil => exact .inl rfl
  | cons c s =>
    refine .inr ?_
    rw [guardDigit]
    split
    · exact ⟨.inr rfl, h⟩
    · next hdigit =>
      rw [List.forall_mem_cons, isPlain_iff] at h
      exact ⟨h.1.resolve_right hdigit, h.2⟩

/-- **A sensible name is an identifier**, if anything is left of the text. -/
theorem sensibleName_eq_nil_or_isIdentifier (text : Chars) :
    sensibleName text = [] ∨ IsIdentifier (sensibleName text) := by
  refine guardDigit_eq_nil_or_isIdentifier (joinWords_isPlain fun c hc => ?_)
  simpa using (List.mem_filter.mp (mem_of_mem_trim hc)).2

theorem sensibleName_isPlain (text : Chars) : ∀ c ∈ sensibleName text, isPlain c = true := by
  obtain hnil | hname := sensibleName_eq_nil_or_isIdentifier text
  · rw [hnil]
    exact List.forall_mem_nil _
  · exact hname.allPlain

/-! ## Constraints -/

/-- **The word that stands for a table in the name of a constraint** is plain, with whatever plain
token it would end. -/
theorem constraintWordOf_isPlain {token : Chars} (htoken : ∀ c ∈ token, isPlain c = true)
    (name : String) : ∀ c ∈ (constraintWordOf token name).toList, isPlain c = true := by
  rw [constraintWordOf]
  split
  · rw [String.toList_append, List.forall_mem_append]
    refine ⟨List.all_eq_true.mp (by decide), ?_⟩
    rw [String.toList_ofList]
    exact htoken
  · rw [String.toList_ofList]
    exact sensibleName_isPlain _

theorem primaryKeyName_isPlain (token : NameToken) (table : String) :
    ∀ c ∈ (primaryKeyName token table).toList, isPlain c = true := by
  rw [primaryKeyName, String.toList_append, List.forall_mem_append]
  exact ⟨List.all_eq_true.mp (by decide), constraintWordOf_isPlain token.plain table⟩

theorem foreignKeyName_isPlain (token other : NameToken) (foreignTable primaryTable : String) :
    ∀ c ∈ (foreignKeyName token other foreignTable primaryTable).toList, isPlain c = true := by
  simp only [foreignKeyName, String.toList_append, List.forall_mem_append]
  exact ⟨⟨⟨List.all_eq_true.mp (by decide), constraintWordOf_isPlain token.plain foreignTable⟩,
    List.all_eq_true.mp (by decide)⟩, constraintWordOf_isPlain other.plain primaryTable⟩

end SqlDialects
