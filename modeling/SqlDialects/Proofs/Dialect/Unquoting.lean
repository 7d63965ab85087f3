import SqlDialects.Dialect.Style

/-!
# Cutting names out of their quotes

A text looks quoted if it has two bytes, begins with the opening mark and ends with the closing one.
Its body is then cut out by bytes, from the end of the one mark to the beginning of the other.  That
needs two marks, and two bytes are not always two characters: a text that consists of one mark only,
which opens and closes and has several bytes, looks quoted as well (`looksQuoted_iff`), and its body
would end before it begins.

* `slice?_append` — a stretch that begins and ends between characters holds what stands there.
* `unquote?_eq` — reading a name by the bytes of its body comes to the same as taking off the first
  and the last character, and fails for the lone mark.
* `runtimeName?_eq` — so does reading the simple name of an expression; no dialect has marks of more
  than one byte, and there it never fails (`Dialect.runtimeName?_eq_some`).
-/

set_option autoImplicit false

namespace SqlDialects

open Text

/-! ## Bytes and characters -/

theorem utf8ByteSize_ofList_cons (c : Char) (s : Chars) :
    (String.ofList (c :: s)).utf8ByteSize = c.utf8Size + (String.ofList s).utf8ByteSize := by
  rw [String.ofList_cons, String.utf8ByteSize_append, String.utf8ByteSize_singleton]

theorem utf8ByteSize_ofList_append (s t : Chars) :
    (String.ofList (s ++ t)).utf8ByteSize =
      (String.ofList s).utf8ByteSize + (String.ofList t).utf8ByteSize := by
  rw [String.ofList_append, String.utf8ByteSize_append]

theorem dropBytes?_cons (n : Nat) (c : Char) (s : Chars) :
    dropBytes? (c.utf8Size + n) (c :: s) = dropBytes? n s := by
  obtain ⟨k, hk⟩ := Nat.exists_eq_succ_of_ne_zero (Nat.ne_of_gt c.utf8Size_pos)
  have hsize : c.utf8Size + n = (k + n) + 1 := by omega
  have hrest : k + n + 1 - c.utf8Size = n := by omega
  rw [hsize, dropBytes?, if_pos (by omega), hrest]

theorem takeBytes?_cons (n : Nat) (c : Char) (s : Chars) :
    takeBytes? (c.utf8Size + n) (c :: s) = (takeBytes? n s).map (c :: ·) := by
  obtain ⟨k, hk⟩ := Nat.exists_eq_succ_of_ne_zero (Nat.ne_of_gt c.utf8Size_pos)
  have hsize : c.utf8Size + n = (k + n) + 1 := by omega
  have hrest : k + n + 1 - c.utf8Size = n := by omega
  rw [hsize, takeBytes?, if_pos (by omega), hrest]

theorem dropBytes?_append (front rest : Chars) :
    dropBytes? (String.ofList front).utf8ByteSize (front ++ rest) = some rest := by
  induction front with
  | nil => rw [List.nil_append, String.ofList_nil, String.utf8ByteSize_empty, dropBytes?]
  | cons c front ih => rw [utf8ByteSize_ofList_cons, List.cons_append, dropBytes?_cons, ih]

theorem takeBytes?_append (front rest : Chars) :
    takeBytes? (String.ofList front).utf8ByteSize (front ++ rest) = some front := by
  induction front with
  | nil => rw [String.ofList_nil, String.utf8ByteSize_empty, takeBytes?]
  | cons c front ih =>
    rw [utf8ByteSize_ofList_cons, List.cons_append, takeBytes?_cons, ih, Option.map_some]

/-- **A stretch between characters** holds the characters that stand there. -/
theorem slice?_append (front body rest : Chars) {span : ByteSpan}
    (hstart : span.start = (String.ofList front).utf8ByteSize)
    (hstop : span.stop = span.start + (String.ofList body).utf8ByteSize) :
    span.slice? (front ++ (body ++ rest)) = some body := by
  have hlength : span.stop - span.start = (String.ofList body).utf8ByteSize := by omega
  rw [ByteSpan.slice?, if_pos (by omega), hlength, hstart, dropBytes?_append, Option.bind_some,
    takeBytes?_append]

theorem slice?_eq_none {span : ByteSpan} (h : span.stop < span.start) (s : Chars) :
    span.slice? s = none := by
  rw [ByteSpan.slice?, if_neg (by omega)]

namespace Quotes

variable {q : Quotes} {s : Chars}

/-! ## Texts that look quoted -/

/-- The text begins with the opening mark and ends with a closing mark that is another character. -/
def HasBothMarks (q : Quotes) (s : Chars) : Prop :=
  ∃ body, s = q.openMark :: (body ++ [q.closeMark])

/-- The text is one mark of several bytes, which opens and closes. -/
def IsLoneMark (q : Quotes) (s : Chars) : Prop :=
  s = [q.openMark] ∧ q.closeMark = q.openMark ∧ 1 < q.openMark.utf8Size

instance (q : Quotes) (s : Chars) : Decidable (q.IsLoneMark s) :=
  inferInstanceAs (Decidable (_ ∧ _ ∧ _))

theorem IsLoneMark.not_hasBothMarks (h : q.IsLoneMark s) : ¬q.HasBothMarks s := by
  rintro ⟨body, hbody⟩
  rw [h.1] at hbody
  simp at hbody

/-- **What looks quoted** has both marks, or is a lone one. -/
theorem looksQuoted_iff : q.looksQuoted s = true ↔ q.HasBothMarks s ∨ q.IsLoneMark s := by
  simp only [looksQuoted, Bool.and_eq_true, decide_eq_true_eq, beq_iff_eq]
  constructor
  · rintro ⟨⟨hsize, hhead⟩, hlast⟩
    obtain ⟨front, rfl⟩ := List.getLast?_eq_some_iff.mp hlast
    cases front with
    | nil =>
      have hsame : q.closeMark = q.openMark := Option.some.inj hhead
      rw [List.nil_append, utf8ByteSize_ofList_cons, String.ofList_nil, String.utf8ByteSize_empty,
        hsame] at hsize
      exact .inr ⟨by rw [List.nil_append, hsame], hsame, hsize⟩
    | cons c body =>
      obtain rfl := Option.some.inj hhead
      exact .inl ⟨body, rfl⟩
  · have hopen := q.openMark.utf8Size_pos
    have hclose := q.closeMark.utf8Size_pos
    rintro (⟨body, rfl⟩ | ⟨rfl, hsame, hsize⟩)
    · rw [utf8ByteSize_ofList_cons, utf8ByteSize_ofList_append, utf8ByteSize_ofList_cons,
        ← List.cons_append, List.getLast?_concat]
      exact ⟨⟨by omega, rfl⟩, rfl⟩
    · rw [utf8ByteSize_ofList_cons, hsame]
      exact ⟨⟨by omega, rfl⟩, rfl⟩

/-! ## The body -/

theorem bodySpan?_of_bothMarks (body : Chars) :
    q.bodySpan? (q.openMark :: (body ++ [q.closeMark])) =
      some ⟨q.openMark.utf8Size, q.openMark.utf8Size + (String.ofList body).utf8ByteSize⟩ := by
  have hstop : (String.ofList (q.openMark :: (body ++ [q.closeMark]))).utf8ByteSize -
      q.closeMark.utf8Size = q.openMark.utf8Size + (String.ofList body).utf8ByteSize := by
    rw [utf8ByteSize_ofList_cons, utf8ByteSize_ofList_append, utf8ByteSize_ofList_cons,
      String.ofList_nil, String.utf8ByteSize_empty]
    omega
  rw [bodySpan?, if_pos (looksQuoted_iff.mpr (.inl ⟨body, rfl⟩)), hstop]

theorem bodySpan?_of_isLoneMark (h : q.IsLoneMark s) :
    q.bodySpan? s = some ⟨q.openMark.utf8Size, 0⟩ := by
  have hstop : (String.ofList s).utf8ByteSize - q.closeMark.utf8Size = 0 := by
    rw [h.1, h.2.1, utf8ByteSize_ofList_cons, String.ofList_nil, String.utf8ByteSize_empty]
    omega
  rw [bodySpan?, if_pos (looksQuoted_iff.mpr (.inr h)), hstop]

theorem slice?_body (body : Chars) :
    ByteSpan.slice? ⟨q.openMark.utf8Size, q.openMark.utf8Size + (String.ofList body).utf8ByteSize⟩
      (q.openMark :: (body ++ [q.closeMark])) = some body := by
  refine slice?_append [q.openMark] body [q.closeMark] ?_ rfl
  rw [utf8ByteSize_ofList_cons, String.ofList_nil, String.utf8ByteSize_empty, Nat.add_zero]

/-- The body of a text begins before it ends, unless the text is a lone mark. -/
theorem bodySpan?_le_iff :
    (∀ span ∈ q.bodySpan? s, span.start ≤ span.stop) ↔ ¬q.IsLoneMark s := by
  constructor
  · intro h hlone
    have hle := h _ (bodySpan?_of_isLoneMark hlone)
    have hopen := q.openMark.utf8Size_pos
    dsimp only at hle
    omega
  · intro hlone span hspan
    have hquoted : q.looksQuoted s = true := by
      rw [bodySpan?] at hspan
      exact (Option.ite_none_right_eq_some.mp hspan).1
    obtain ⟨body, rfl⟩ := (looksQuoted_iff.mp hquoted).resolve_right hlone
    rw [bodySpan?_of_bothMarks] at hspan
    obtain rfl := Option.some.inj hspan
    exact Nat.le_add_right _ _

/-- **Reading a name by its bytes** is reading it by its characters, and the lone mark cannot be
read. -/
theorem unquote?_eq (q : Quotes) (s : Chars) :
    q.unquote? s = if q.IsLoneMark (trim s) then none else some (q.unquote s) := by
  rw [unquote?, unquote]
  by_cases hquoted : q.looksQuoted (trim s) = true
  · obtain ⟨body, hbody⟩ | hlone := looksQuoted_iff.mp hquoted
    · have hpair : ¬q.IsLoneMark (trim s) := fun h => h.not_hasBothMarks ⟨body, hbody⟩
      rw [if_neg hpair, if_pos hquoted, hbody, bodySpan?_of_bothMarks]
      simp [slice?_body]
    · have hopen := q.openMark.utf8Size_pos
      rw [if_pos hlone, bodySpan?_of_isLoneMark hlone]
      exact congrArg (Option.map _) (slice?_eq_none hopen _)
  · have hplain : ¬q.IsLoneMark (trim s) := fun h => hquoted (looksQuoted_iff.mpr (.inr h))
    rw [if_neg hplain, if_neg hquoted, bodySpan?, if_neg hquoted]

/-- **Names are cut out within bounds**, and there are two marks around them, but for the text that
is a mark of several bytes, the opening and the closing one at once, and nothing else.  That one
cannot be read; any other text is read by taking off the first and the last character. -/
theorem unquoting_inBounds_iff (q : Quotes) (s : Chars) :
    ((∀ span ∈ q.bodySpan? (trim s), span.start ≤ span.stop) ↔ ¬q.IsLoneMark (trim s)) ∧
    ((q.looksQuoted (trim s) = true → q.HasBothMarks (trim s)) ↔ ¬q.IsLoneMark (trim s)) ∧
    q.unquote? s = if q.IsLoneMark (trim s) then none else some (q.unquote s) := by
  refine ⟨bodySpan?_le_iff, ⟨fun h hlone => ?_, fun hlone hquoted => ?_⟩, unquote?_eq q s⟩
  · exact hlone.not_hasBothMarks (h (looksQuoted_iff.mpr (.inr hlone)))
  · exact (looksQuoted_iff.mp hquoted).resolve_right hlone

/-- A mark of two bytes for both sides: the mark alone looks quoted, but there is one mark only, and
its body would begin behind the second byte and end before the first. -/
theorem unquoting_lone_mark :
    (⟨'é', 'é'⟩ : Quotes).looksQuoted (trim ['é']) = true ∧
    ¬(⟨'é', 'é'⟩ : Quotes).HasBothMarks (trim ['é']) ∧
    (⟨'é', 'é'⟩ : Quotes).bodySpan? (trim ['é']) = some ⟨2, 0⟩ ∧
    (⟨'é', 'é'⟩ : Quotes).unquote? ['é'] = none := by
  have hlone : (⟨'é', 'é'⟩ : Quotes).IsLoneMark (trim ['é']) := by decide
  refine ⟨by decide, hlone.not_hasBothMarks, by decide, by decide⟩

end Quotes

/-! ## Simple names of expressions -/

theorem QueryStyle.runtimeName?_eq (style : QueryStyle) (text : String) :
    style.runtimeName? text =
      if style.quotes.IsLoneMark (trim (style.namePart text)) then none
      else some (style.runtimeName text) := by
  rw [runtimeName?, Quotes.unquote?_eq, runtimeName]
  split <;> rfl

theorem Dialect.runtimeName?_eq_some (dialect : Dialect) (text : String) :
    dialect.style.runtimeName? text = some (dialect.style.runtimeName text) := by
  have hsize : dialect.style.quotes.openMark.utf8Size = 1 := by cases dialect <;> decide
  rw [QueryStyle.runtimeName?_eq, if_neg]
  rintro ⟨-, -, hlarge⟩
  omega

end SqlDialects
