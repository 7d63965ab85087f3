import SqlDialects.Proofs.Dialect.QuotedName
import SqlDialects.Proofs.Dialect.Unquoting
import SqlDialects.Proofs.Text.Trim

/-!
# Reading past quotes

Three readers pass over quoted text: the one that looks for the mark that closes a quotation, the
one that looks for the last separator, and the one that looks for the last `as`.  The first is
described here by what it does at each kind of character.  The other two do nothing else inside of
quotes (`afterLastAs_quoted`, `lastSegmentFrom_quoted`), so what holds of the first one holds of
all.

* `afterQuoted_doubleMarks` — the body of a quoted name is passed over up to its own closing mark,
  whatever the name holds.
* `ClosesAll` — texts in which every quotation that begins also ends.  A reader comes out of such a
  text as it went in, except for what it has found on the way (`ClosesAll.afterLastAs_append`,
  `ClosesAll.lastSegmentFrom_append`).
* `unquote_quote` — a quoted name is read as the name.
-/

set_option autoImplicit false

namespace SqlDialects

open Text

namespace Quotes

variable {q : Quotes}

/-! ## The mark that closes a quotation -/

theorem afterQuoted_cons_of_ne {c : Char} (hc : c ≠ q.closeMark) (s : Chars) :
    q.afterQuoted (c :: s) = q.afterQuoted s := by
  cases s with
  | nil => simp only [afterQuoted, if_neg hc]
  | cons d s => rw [afterQuoted, if_neg hc]

theorem afterQuoted_pair (s : Chars) :
    q.afterQuoted (q.closeMark :: q.closeMark :: s) = q.afterQuoted s := by
  rw [afterQuoted, if_pos rfl, if_pos rfl]

theorem afterQuoted_mark {s : Chars} (hs : s.head? ≠ some q.closeMark) :
    q.afterQuoted (q.closeMark :: s) = some s := by
  cases s with
  | nil => rw [afterQuoted, if_pos rfl]
  | cons d s =>
    rw [afterQuoted, if_pos rfl, if_neg fun h => hs (congrArg some h)]

/-- **The body of a quoted name** is passed over up to the mark that closes it. -/
theorem afterQuoted_doubleMarks (name : Chars) {rest : Chars}
    (hrest : rest.head? ≠ some q.closeMark) :
    q.afterQuoted (q.doubleMarks name ++ q.closeMark :: rest) = some rest := by
  induction name with
  | nil => exact afterQuoted_mark hrest
  | cons c name ih =>
    rw [doubleMarks]
    split
    · next hc =>
      subst hc
      exact (afterQuoted_pair _).trans ih
    · next hc => exact (afterQuoted_cons_of_ne hc _).trans ih

/-- What is read behind a quotation goes on with what stands behind the text. -/
theorem afterQuoted_append {s rest t : Chars} (h : q.afterQuoted s = some rest)
    (ht : t.head? ≠ some q.closeMark) : q.afterQuoted (s ++ t) = some (rest ++ t) := by
  fun_induction afterQuoted q s with
  | case1 => contradiction
  | case2 =>
    obtain rfl := Option.some.inj h
    exact afterQuoted_mark ht
  | case3 => contradiction
  | case4 s ih => exact (afterQuoted_pair _).trans (ih h)
  | case5 d s hd =>
    obtain rfl := Option.some.inj h
    exact afterQuoted_mark fun heq => hd (Option.some.inj heq)
  | case6 c d s hc ih => exact (afterQuoted_cons_of_ne hc _).trans (ih h)

/-! ## The other readers inside of quotes -/

theorem afterLastAs_quoted (found : Option Chars) (s : Chars) :
    q.afterLastAs true found s = (q.afterQuoted s).bind (q.afterLastAs false found) := by
  fun_induction afterQuoted q s <;> simp_all [afterLastAs]

theorem lastSegmentFrom_quoted (separator last s : Chars) :
    q.lastSegmentFrom separator true last s =
      match q.afterQuoted s with
      | some rest => q.lastSegmentFrom separator false last rest
      | none => last := by
  fun_induction afterQuoted q s <;> simp_all [lastSegmentFrom]

/-! ## Texts in which quotations end -/

/-- Every quotation that begins in the text also ends in it. -/
inductive ClosesAll (q : Quotes) : Chars → Prop
  | nil : ClosesAll q []
  | plain {c : Char} {s : Chars} (hc : c ≠ q.openMark) (hs : ClosesAll q s) : ClosesAll q (c :: s)
  | quoted {s rest : Chars} (h : q.afterQuoted s = some rest) (hrest : ClosesAll q rest) :
    ClosesAll q (q.openMark :: s)

theorem closesAll_of_notMem {s : Chars} (h : q.openMark ∉ s) : q.ClosesAll s := by
  induction s with
  | nil => exact .nil
  | cons c s ih =>
    rw [List.mem_cons, not_or] at h
    exact .plain (Ne.symm h.1) (ih h.2)

theorem ClosesAll.append {s t : Chars} (hs : q.ClosesAll s) (ht : q.ClosesAll t)
    (hhead : t.head? ≠ some q.closeMark) : q.ClosesAll (s ++ t) := by
  induction hs with
  | nil => exact ht
  | plain hc _ ih => exact .plain hc ih
  | quoted h _ ih => exact .quoted (afterQuoted_append h hhead) ih

theorem IsName.closesAll {s : Chars} (h : q.IsName s) : q.ClosesAll s := by
  obtain ⟨name, rfl⟩ := isName_iff_exists_quote.mp h
  exact .quoted (afterQuoted_doubleMarks name (by simp)) .nil

/-- White space in front is nothing to a quotation. -/
theorem closesAll_trimStart (hblank : isBlank q.openMark = false) {s : Chars}
    (h : q.ClosesAll s) : q.ClosesAll (trimStart s) := by
  induction h with
  | nil => exact .nil
  | @plain c s hc hs ih =>
    rw [trimStart, List.dropWhile_cons]
    split
    · exact ih
    · exact .plain hc hs
  | @quoted s rest h hrest =>
    rw [trimStart, List.dropWhile_cons_of_neg (by simp [hblank])]
    exact .quoted h hrest

/-- **Looking for the last `as`** in a longer text goes on behind a text that closes its quotes. -/
theorem ClosesAll.afterLastAs_append {s t : Chars} (hs : q.ClosesAll s)
    (ht : t.head? ≠ some q.closeMark) (found : Option Chars) :
    ∃ found', q.afterLastAs false found (s ++ t) = q.afterLastAs false found' t := by
  induction hs generalizing found with
  | nil => exact ⟨found, rfl⟩
  | plain hc _ ih =>
    rw [List.cons_append, afterLastAs, if_neg hc]
    exact ih _
  | quoted h _ ih =>
    rw [List.cons_append, afterLastAs, if_pos rfl, afterLastAs_quoted, afterQuoted_append h ht]
    exact ih found

/-- **Looking for the last separator** does so too. -/
theorem ClosesAll.lastSegmentFrom_append {s t : Chars} (hs : q.ClosesAll s)
    (ht : t.head? ≠ some q.closeMark) (separator last : Chars) :
    ∃ last', q.lastSegmentFrom separator false last (s ++ t) =
      q.lastSegmentFrom separator false last' t := by
  induction hs generalizing last with
  | nil => exact ⟨last, rfl⟩
  | @plain c s hc _ ih =>
    rw [List.cons_append, lastSegmentFrom, if_neg hc]
    split
    · exact ih _
    · exact ih _
  | quoted h _ ih =>
    rw [List.cons_append, lastSegmentFrom, if_pos rfl, lastSegmentFrom_quoted,
      afterQuoted_append h ht]
    exact ih last

/-! ## Reading a quoted name -/

/-- No mark is white space. -/
def HasSolidMarks (q : Quotes) : Prop := isBlank q.openMark = false ∧ isBlank q.closeMark = false

instance (q : Quotes) : Decidable q.HasSolidMarks := inferInstanceAs (Decidable (_ ∧ _))

/-- Pairs of closing marks are read as the marks that were doubled. -/
theorem singleMarks_doubleMarks (name : Chars) : q.singleMarks (q.doubleMarks name) = name := by
  rw [singleMarks, replaceAll]
  induction name with
  | nil => rfl
  | cons c name ih =>
    rw [doubleMarks]
    split
    · next hc => simp [replaceFrom, hc, ih]
    · next hc => simp [replaceFrom, Ne.symm hc, ih]

theorem looksQuoted_quote (name : Chars) : q.looksQuoted (q.quote name) = true := by
  rw [quote, List.cons_append]
  exact looksQuoted_iff.mpr (.inl ⟨_, rfl⟩)

/-- A quoted name at the end of a text stays when the text is trimmed. -/
theorem trim_append_quote (hq : q.HasSolidMarks) (s name : Chars) :
    trim (s ++ q.quote name) = trimStart s ++ q.quote name := by
  have hstart : trimStart (s ++ q.quote name) = trimStart s ++ q.quote name := by
    rw [trimStart, List.dropWhile_append, trimStart]
    split
    · next hempty =>
      rw [List.isEmpty_iff.mp hempty, List.nil_append, quote, List.cons_append,
        List.dropWhile_cons_of_neg (by simp [hq.1])]
    · rfl
  rw [trim, hstart, quote, ← List.append_assoc, trimEnd_concat hq.2]

/-- Between marks there is nothing to trim. -/
theorem trim_of_isEnclosed (hq : q.HasSolidMarks) {s : Chars} (h : q.IsEnclosed s) :
    trim s = s := by
  obtain ⟨rest, hrest⟩ := List.head?_eq_some_iff.mp h.1
  obtain ⟨front, hfront⟩ := List.getLast?_eq_some_iff.mp h.2
  have hstart : trimStart s = s := by
    rw [hrest, trimStart, List.dropWhile_cons_of_neg (by simp [hq.1])]
  rw [trim, hstart, hfront, trimEnd_concat hq.2]

theorem isEnclosed_quote (name : Chars) : q.IsEnclosed (q.quote name) :=
  ⟨rfl, List.getLast?_concat⟩

theorem trim_quote (hq : q.HasSolidMarks) (name : Chars) : trim (q.quote name) = q.quote name :=
  trim_of_isEnclosed hq (isEnclosed_quote name)

/-- **A quoted name** is read as the name. -/
theorem unquote_quote (hq : q.HasSolidMarks) (name : Chars) : q.unquote (q.quote name) = name := by
  rw [unquote, trim_quote hq, looksQuoted_quote, if_pos rfl, quote]
  simp [singleMarks_doubleMarks]

end Quotes

end SqlDialects
