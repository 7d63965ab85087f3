import SqlDialects.Proofs.Calendar.Pattern

/-!
# The order for which a date votes

A text with two leading numbers votes for the only order in which they can be a day and a month, and
the votes of a column settle the order that its dates are read in.  This file says how the vote of a
date and the reading of it go together.

* **ISO notation** reads the same in both orders (`readDateTime_of_isIsoDate`).
* **Any other date** never votes against an order that it can be read in (`orderVote_ne_other`): the
  number in the place of the month is a month, of which there are twelve.  Names of months do not
  vote at all.
* So the order of a culture gives way only to a majority against it (`ofSamples_eq`), and of dates
  that the culture can read, only those in ISO notation vote against it (`orderVotes_other`).  They
  can because a year may have fewer than four digits, and a vote takes only a first part of four
  bytes for a year.
-/

set_option autoImplicit false

namespace SqlDialects

open Text

/-! ## Text in parts -/

section Split

variable {isBreak : Char → Bool}

theorem splitAtChars_ne_nil (isBreak : Char → Bool) (s : Chars) : splitAtChars isBreak s ≠ [] := by
  cases s with
  | nil => exact List.cons_ne_nil _ _
  | cons c s =>
    rw [splitAtChars]
    split
    · exact List.cons_ne_nil _ _
    · split <;> exact List.cons_ne_nil _ _

/-- Characters that are no break are the front of the first part. -/
theorem splitAtChars_append {front : Chars} (h : ∀ c ∈ front, isBreak c = false) (s : Chars) :
    ∃ part parts, splitAtChars isBreak s = part :: parts ∧
      splitAtChars isBreak (front ++ s) = (front ++ part) :: parts := by
  obtain ⟨part, parts, hs⟩ := List.exists_cons_of_ne_nil (splitAtChars_ne_nil isBreak s)
  refine ⟨part, parts, hs, ?_⟩
  induction front with
  | nil => exact hs
  | cons c front ih =>
    rw [List.forall_mem_cons] at h
    rw [List.cons_append, splitAtChars, h.1, ih h.2]
    rfl

/-- A break ends the first part. -/
theorem splitAtChars_append_cons {front : Chars} (h : ∀ c ∈ front, isBreak c = false) {c : Char}
    (hc : isBreak c = true) (s : Chars) :
    splitAtChars isBreak (front ++ c :: s) = front :: splitAtChars isBreak s := by
  have hbreak : splitAtChars isBreak (c :: s) = [] :: splitAtChars isBreak s := by
    rw [splitAtChars, if_pos hc]
  obtain ⟨part, parts, hparts, hsplit⟩ := splitAtChars_append h (c :: s)
  obtain ⟨rfl, rfl⟩ := List.cons.inj (hbreak.symm.trans hparts)
  rw [hsplit, List.append_nil]

end Split

/-! ## Leading numbers -/

/-- The characters that part a date in digits. -/
def isDateMark (c : Char) : Bool := c = '/' || c = '-' || c = '.' || isBlank c

/-- The characters of an unsigned numeral. -/
def isNumeralChar (c : Char) : Bool := c = '+' || c.isDigit

theorem isDateMark_of_isDigit {c : Char} (h : c.isDigit = true) : isDateMark c = false := by
  have hne : ∀ d : Char, d.isDigit = false → c ≠ d := by
    rintro d hd rfl
    exact Bool.noConfusion (hd.symm.trans h)
  simp [isDateMark, isBlank_of_isDigit h, hne '/' rfl, hne '-' rfl, hne '.' rfl]

theorem isDateMark_of_isBlank {c : Char} (h : isBlank c = true) : isDateMark c = true := by
  rw [isDateMark, h, Bool.or_true]

/-- There is no mark among the digits of a number. -/
theorem isDateMark_of_readNat {digits : Chars} {n : Nat} (h : readNat digits = some n) :
    ∀ c ∈ digits, isDateMark c = false :=
  fun c hc => isDateMark_of_isDigit ((readNat_eq_some_iff.mp h).2.1 c hc)

theorem readUnsigned_chars {greatest n : Nat} {s : Chars} (h : readUnsigned greatest s = some n) :
    s ≠ [] ∧ ∀ c ∈ s, isNumeralChar c = true := by
  have hdigit : ∀ c : Char, c.isDigit = true → isNumeralChar c = true := by
    intro c hc
    rw [isNumeralChar, hc, Bool.or_true]
  have hread := (Option.filter_eq_some_iff.mp (readUnsigned.eq_def greatest s ▸ h)).1
  split at hread
  all_goals obtain ⟨hne, hdigits, -⟩ := readNat_eq_some_iff.mp hread
  case h_1 =>
    exact ⟨List.cons_ne_nil _ _,
      List.forall_mem_cons.mpr ⟨rfl, fun c hc => hdigit c (hdigits c hc)⟩⟩
  case h_2 => exact ⟨hne, fun c hc => hdigit c (hdigits c hc)⟩

/-- White space ends a part before it has begun. -/
theorem readUnsigned_of_isBlank {b : Char} {s part : Chars} {parts : List Chars}
    (hb : isBlank b = true) (h : splitAtChars isDateMark (b :: s) = part :: parts)
    (greatest : Nat) : readUnsigned greatest part = none := by
  rw [splitAtChars, if_pos (isDateMark_of_isBlank hb)] at h
  obtain ⟨rfl, -⟩ := List.cons.inj h
  rfl

/-- Digits alone are read as they are. -/
theorem readUnsigned_of_readNat {greatest n m : Nat} {digits : Chars}
    (hread : readNat digits = some n) (h : readUnsigned greatest digits = some m) : m = n := by
  have hmore := (Option.filter_eq_some_iff.mp (readUnsigned.eq_def greatest digits ▸ h)).1
  split at hmore
  case h_1 =>
    -- a sign is no digit
    exact absurd ((readNat_eq_some_iff.mp hread).2.1 '+' List.mem_cons_self) (by decide)
  case h_2 => exact Option.some.inj (hmore.symm.trans hread)

/-- The leading numbers are the first two parts of the text. -/
theorem exists_parts_of_leadingNumbers {text : Chars} {a b : Nat}
    (h : leadingNumbers text = some (a, b)) :
    ∃ first second parts, splitAtChars isDateMark (trim text) = first :: second :: parts ∧
      readUnsigned 4294967295 first = some a ∧ readUnsigned 4294967295 second = some b := by
  rw [leadingNumbers] at h
  split at h
  case h_1 first second parts hsplit =>
    split at h
    · nomatch h
    · split at h
      · next ha hb =>
        obtain ⟨rfl, rfl⟩ := Prod.mk.inj (Option.some.inj h)
        exact ⟨first, second, parts, hsplit, ha, hb⟩
      · nomatch h
  case h_2 => nomatch h

/-- Trimmed text has no white space in front. -/
theorem eq_nil_of_trim_eq {text blanks rest : Chars} (h : trim text = blanks ++ rest)
    (hblanks : ∀ c ∈ blanks, isBlank c = true) : blanks = [] := by
  cases blanks with
  | nil => rfl
  | cons c blanks =>
    have hprefix : trim text <+: trimStart text := by
      rw [trim, trimEnd, ← List.reverse_suffix, List.reverse_reverse]
      exact List.dropWhile_suffix _
    obtain ⟨more, hmore⟩ := h ▸ hprefix
    have hhead : (trimStart text).head? = some c := by
      rw [← hmore]
      rfl
    have hfront := List.head?_dropWhile_not isBlank text
    rw [← trimStart, hhead] at hfront
    exact Bool.noConfusion ((hblanks c List.mem_cons_self).symm.trans hfront)

/-! ## Letters -/

theorem toNat_bounds_of_toLower {c : Char} (h : 97 ≤ c.toLower.toNat ∧ c.toLower.toNat ≤ 122) :
    65 ≤ c.toNat ∧ c.toNat ≤ 122 := by
  by_cases hupper : 'A'.val ≤ c.val ∧ c.val ≤ 'Z'.val
  · have h65 : 65 ≤ c.toNat := UInt32.le_iff_toNat_le.mp hupper.1
    have h90 : c.toNat ≤ 90 := UInt32.le_iff_toNat_le.mp hupper.2
    omega
  · have hsame : c.toLower = c := dif_neg hupper
    rw [hsame] at h
    omega

/-- The first character of the name of a month is a letter. -/
theorem exists_letter_of_takeMonthName {s rest : Chars} {n : Nat}
    (h : takeMonthName s = some (n, rest)) :
    ∃ c tail, s = c :: tail ∧ 65 ≤ c.toNat ∧ c.toNat ≤ 122 := by
  obtain ⟨name, hname, left, hshort, -⟩ := exists_monthName_of_takeMonthName h
  have hnames : ∀ name ∈ monthNames, name.1.length = 3 ∧
      name.1.toList.all (fun d => 97 ≤ d.toNat ∧ d.toNat ≤ 122) = true := by decide
  obtain ⟨hlength, hletters⟩ := hnames name hname
  rw [afterIgnoringCase?, Option.ite_none_right_eq_some, hlength] at hshort
  cases s with
  | nil =>
    have hempty : name.1.toList = [] := hshort.1.symm
    rw [← String.length_toList, hempty] at hlength
    contradiction
  | cons c tail =>
    have hfirst : c.toLower ∈ name.1.toList := hshort.1 ▸ List.mem_cons_self
    have hbounds := of_decide_eq_true (List.all_eq_true.mp hletters _ hfirst)
    exact ⟨c, tail, rfl, toNat_bounds_of_toLower hbounds⟩

theorem isDateMark_of_letter {c : Char} (h : 65 ≤ c.toNat ∧ c.toNat ≤ 122) :
    isDateMark c = false := by
  have hne : ∀ d : Char, d.toNat < 65 → c ≠ d := by
    rintro d hd rfl
    omega
  have hblank : isBlank c = false := by
    simp only [isBlank, CodeRanges.has, blankRanges, List.any_cons, List.any_nil, Bool.or_false,
      Bool.or_eq_false_iff, Bool.and_eq_false_iff, decide_eq_false_iff_not]
    omega
  simp [isDateMark, hblank, hne '/' (by decide), hne '-' (by decide), hne '.' (by decide)]

theorem isNumeralChar_of_letter {c : Char} (h : 65 ≤ c.toNat ∧ c.toNat ≤ 122) :
    isNumeralChar c = false := by
  have hsign : c ≠ '+' := by
    rintro rfl
    exact absurd h.1 (by decide)
  have hdigit : c.isDigit = false := by
    rw [← Bool.not_eq_true]
    intro hdigit
    have := toNat_bounds_of_isDigit hdigit
    omega
  simp [isNumeralChar, hsign, hdigit]

/-! ## Notations -/

/-- The marks between the numbers of a day in digits. -/
def dayMarks : Chars := ['/', '-', '.']

theorem isDateMark_of_mem_dayMarks {c : Char} (hc : c ∈ dayMarks) : isDateMark c = true :=
  have hall : dayMarks.all isDateMark = true := by decide
  List.all_eq_true.mp hall c hc

/-- A day and its month by name, in the order. -/
def namedDay : DateOrder → Pattern
  | .monthFirst => [.monthName, .blank, .day, .blank, .year]
  | .dayFirst => [.day, .blank, .monthName, .blank, .year]

/-- A notation that depends on the order begins with a day in digits, or has the month's name. -/
theorem ordered_shape (order : DateOrder) :
    ∀ p ∈ DatePatterns.orderedDateTimes order ++ DatePatterns.orderedDates order,
      p.take 5 ∈ dayMarks.map (DatePatterns.digitDay order) ∧ PatternItem.month ∉ p.drop 5 ∧
        PatternItem.monthName ∉ p.drop 5 ∨
      p = namedDay order := by
  cases order <;> decide

/-- The one of two leading numbers that stands in the place of the month. -/
def DateOrder.monthOf : DateOrder → Nat × Nat → Nat
  | .monthFirst, numbers => numbers.1
  | .dayFirst, numbers => numbers.2

section Notation

variable {text : Chars} {numbers : Nat × Nat} {d : Date}

/-- The first of two leading numbers ends at the first mark. -/
theorem fst_of_leadingNumbers {digits rest : Chars} {c : Char} {n : Nat}
    (htext : trim text = digits ++ c :: rest) (hread : readNat digits = some n)
    (hc : isDateMark c = true) (h : leadingNumbers text = some numbers) :
    numbers.1 = n ∧ ∃ second parts, splitAtChars isDateMark rest = second :: parts ∧
      readUnsigned 4294967295 second = some numbers.2 := by
  obtain ⟨first, second, parts, hsplit, ha, hb⟩ := exists_parts_of_leadingNumbers h
  rw [htext, splitAtChars_append_cons (isDateMark_of_readNat hread) hc] at hsplit
  obtain ⟨rfl, hrest⟩ := List.cons.inj hsplit
  exact ⟨readUnsigned_of_readNat hread ha, second, parts, hrest, hb⟩

/-- A day in digits has its month among the leading numbers, if it has any. -/
theorem monthOf_leadingNumbers {order : DateOrder} {c : Char} (hc : isDateMark c = true)
    {p : Pattern} (hnumber : PatternItem.month ∉ p) (hname : PatternItem.monthName ∉ p)
    (hd : (DatePatterns.digitDay order c ++ p).Names (trim text) d)
    (h : leadingNumbers text = some numbers) : order.monthOf numbers = d.month := by
  obtain ⟨g, hread, hdate⟩ := hd
  have hmonth : g.month = some d.month := Fields.month_of_date? hdate
  cases order with
  | monthFirst =>
    obtain ⟨blanks, digits, n, rest, htext, hblanks, hdigits, hread⟩ :=
      exists_digits_of_readFields (fun n => { month := some n }) (fun _ => rfl) hread
    obtain rfl : blanks = [] := eq_nil_of_trim_eq htext hblanks
    have hkept : g.month = some n :=
      month_of_readFields (by simpa using hnumber) (by simpa using hname) hread
    show numbers.1 = d.month
    rw [(fst_of_leadingNumbers htext hdigits hc h).1]
    exact Option.some.inj (hkept.symm.trans hmonth)
  | dayFirst =>
    obtain ⟨blanks, digits, day, rest, htext, hblanks, hdigits, hread⟩ :=
      exists_digits_of_readFields (fun n => { day := some n }) (fun _ => rfl) hread
    obtain rfl : blanks = [] := eq_nil_of_trim_eq htext hblanks
    -- the month is the number behind the first mark
    obtain ⟨-, second, parts, hsplit, hsecond⟩ := fst_of_leadingNumbers htext hdigits hc h
    obtain ⟨blanks, digits, n, rest, rfl, hblanks, hdigits, hread⟩ :=
      exists_digits_of_readFields (fun n => { day := some day, month := some n }) (fun _ => rfl)
        hread
    have hkept : g.month = some n :=
      month_of_readFields (by simpa using hnumber) (by simpa using hname) hread
    show numbers.2 = d.month
    cases blanks with
    | nil =>
      rw [List.nil_append, splitAtChars_append_cons (isDateMark_of_readNat hdigits) hc] at hsplit
      obtain ⟨rfl, -⟩ := List.cons.inj hsplit
      rw [readUnsigned_of_readNat hdigits hsecond]
      exact Option.some.inj (hkept.symm.trans hmonth)
    | cons b blanks =>
      -- a pattern reads over a blank, but the second number is then none
      have hnone := readUnsigned_of_isBlank (hblanks b List.mem_cons_self) hsplit 4294967295
      nomatch hnone.symm.trans hsecond

/-- A part with a letter in it is no number. -/
theorem readUnsigned_of_letter {front tail part : Chars} {parts : List Chars} {c : Char}
    (hfront : ∀ d ∈ front, isDateMark d = false) (hc : 65 ≤ c.toNat ∧ c.toNat ≤ 122)
    (h : splitAtChars isDateMark (front ++ c :: tail) = part :: parts) (greatest : Nat) :
    readUnsigned greatest part = none := by
  have hclear : ∀ d ∈ front ++ [c], isDateMark d = false :=
    List.forall_mem_append.mpr ⟨hfront, List.forall_mem_singleton.mpr (isDateMark_of_letter hc)⟩
  obtain ⟨more, rest, -, hsplit⟩ := splitAtChars_append hclear tail
  rw [List.append_assoc, List.singleton_append, h] at hsplit
  obtain ⟨rfl, -⟩ := List.cons.inj hsplit
  refine Option.eq_none_iff_forall_ne_some.mpr fun n hn => ?_
  have hnumeral : isNumeralChar c = true := (readUnsigned_chars hn).2 c (by simp)
  exact Bool.noConfusion ((isNumeralChar_of_letter hc).symm.trans hnumeral)

/-- The name of the month in front. -/
theorem exists_letter_of_monthName {p : Pattern} {f : Fields} {s : Chars} {g : Fields}
    (h : Pattern.readFields (.monthName :: p) f s = some g) :
    ∃ c tail, s = c :: tail ∧ 65 ≤ c.toNat ∧ c.toNat ≤ 122 := by
  obtain ⟨f, rest, htake, -⟩ := readFields_cons.mp h
  obtain ⟨⟨n, left⟩, hname, -⟩ := Option.map_eq_some_iff.mp htake
  exact exists_letter_of_takeMonthName hname

/-- The day in front and the name of the month behind it. -/
theorem exists_letter_of_day_monthName {p : Pattern} {f : Fields} {s : Chars} {g : Fields}
    (h : Pattern.readFields (.day :: .blank :: .monthName :: p) f s = some g) :
    ∃ before digits day between c tail, s = before ++ (digits ++ (between ++ c :: tail)) ∧
      (∀ b ∈ before, isBlank b = true) ∧ readNat digits = some day ∧
      (∀ b ∈ between, isBlank b = true) ∧ 65 ≤ c.toNat ∧ c.toNat ≤ 122 := by
  obtain ⟨f, rest, htake, hread⟩ := readFields_cons.mp h
  obtain ⟨⟨day, left⟩, hday, heq⟩ := Option.map_eq_some_iff.mp htake
  obtain ⟨rfl, rfl⟩ := Prod.mk.inj heq
  obtain ⟨f, rest, htake, hread⟩ := readFields_cons.mp hread
  obtain ⟨rfl, rfl⟩ := Prod.mk.inj (Option.some.inj htake)
  obtain ⟨before, digits, hs, hbefore, hdigits⟩ := exists_digits_of_takeField hday
  obtain ⟨between, hleft, hbetween⟩ := exists_blanks_append_trimStart left
  obtain ⟨c, tail, hname, hc⟩ := exists_letter_of_monthName hread
  exact ⟨before, digits, day, between, c, tail, by rw [hs, hleft, hname], hbefore, hdigits,
    hbetween, hc⟩

/-- A day with the name of its month has no two leading numbers. -/
theorem leadingNumbers_of_namedDay {order : DateOrder}
    (hd : (namedDay order).Names (trim text) d) : leadingNumbers text = none := by
  refine Option.eq_none_iff_forall_ne_some.mpr fun numbers h => ?_
  obtain ⟨g, hread, -⟩ := hd
  cases order with
  | monthFirst =>
    obtain ⟨c, tail, htext, hc⟩ := exists_letter_of_monthName hread
    obtain ⟨first, second, parts, hsplit, hfirst, -⟩ := exists_parts_of_leadingNumbers h
    rw [htext] at hsplit
    have hnone := readUnsigned_of_letter (List.forall_mem_nil _) hc hsplit 4294967295
    nomatch hnone.symm.trans hfirst
  | dayFirst =>
    obtain ⟨before, digits, day, between, c, tail, htext, hbefore, hdigits, hbetween, hc⟩ :=
      exists_letter_of_day_monthName hread
    obtain rfl : before = [] := eq_nil_of_trim_eq htext hbefore
    cases between with
    | nil =>
      -- the name belongs to the first part
      obtain ⟨first, second, parts, hsplit, hfirst, -⟩ := exists_parts_of_leadingNumbers h
      rw [htext] at hsplit
      have hnone := readUnsigned_of_letter (isDateMark_of_readNat hdigits) hc hsplit 4294967295
      nomatch hnone.symm.trans hfirst
    | cons b between =>
      rw [List.forall_mem_cons] at hbetween
      obtain ⟨-, second, parts, hsplit, hsecond⟩ :=
        fst_of_leadingNumbers htext hdigits (isDateMark_of_isBlank hbetween.1) h
      cases between with
      | nil =>
        have hnone := readUnsigned_of_letter (List.forall_mem_nil _) hc hsplit 4294967295
        nomatch hnone.symm.trans hsecond
      | cons b' between =>
        have hb' : isBlank b' = true := hbetween.2 b' List.mem_cons_self
        have hnone := readUnsigned_of_isBlank hb' hsplit 4294967295
        nomatch hnone.symm.trans hsecond

end Notation

/-! ## Votes -/

/-- The other order of the two. -/
def DateOrder.other : DateOrder → DateOrder
  | .monthFirst => .dayFirst
  | .dayFirst => .monthFirst

@[simp] theorem DateOrder.other_other (order : DateOrder) : order.other.other = order := by
  cases order <;> rfl

theorem DateOrder.eq_or_eq_other (vote order : DateOrder) : vote = order ∨ vote = order.other := by
  cases vote <;> cases order <;> decide

/-- A vote against an order says that the number in the place of the month is no month. -/
theorem exists_of_orderVote_other {order : DateOrder} {text : Chars}
    (h : orderVote text = some order.other) :
    ∃ numbers, leadingNumbers text = some numbers ∧ 12 < order.monthOf numbers := by
  rw [orderVote] at h
  split at h
  case h_1 a b hnumbers =>
    refine ⟨(a, b), hnumbers, ?_⟩
    cases order <;> grind [DateOrder.other, DateOrder.monthOf]
  case h_2 => nomatch h

/-- The samples that vote for an order. -/
def orderVotes (samples : List String) (order : DateOrder) : Nat :=
  samples.countP fun text => orderVote text.toList == some order

/-- **Settling the order**: the fallback gives way to a majority against it. -/
theorem settleOrder_eq (samples : List String) (order : DateOrder) :
    settleOrder samples order =
      if orderVotes samples order < orderVotes samples order.other then order.other else order := by
  have hcount : ∀ vote : DateOrder,
      (samples.map fun text => orderVote text.toList).count (some vote) =
        orderVotes samples vote := by
    intro vote
    rw [List.count, List.countP_map]
    rfl
  rw [settleOrder, hcount, hcount]
  cases order <;> grind [DateOrder.other]

/-! ## Readers -/

/-- Blank text is no date. -/
theorem readDateTime_of_blank {text : String} (h : isBlankText text = true) (reader : DateReader) :
    reader.readDateTime text = none := by
  rw [DateReader.readDateTime, if_pos (List.isEmpty_iff.mpr (trim_eq_nil_iff.mpr h))]

/-- A date in ISO notation, which is read before any other. -/
def isIsoDate (text : String) : Bool :=
  (DatePatterns.isoDateTimes.any fun p => (p.readDateTime (trim text.toList)).isSome) ||
    DatePatterns.isoDates.any fun p => (p.readDate (trim text.toList)).isSome

/-- The samples in ISO notation that vote for an order. -/
def isoVotes (samples : List String) (order : DateOrder) : Nat :=
  samples.countP fun text => isIsoDate text && orderVote text.toList == some order

namespace DateReader

variable {reader : DateReader} {text : String}

theorem readDateTime_eq (reader : DateReader) (text : String) :
    reader.readDateTime text =
      if (trim text.toList).isEmpty then none
      else
        ((DatePatterns.isoDateTimes.findSome? fun p => p.readDateTime (trim text.toList)).or
          ((DatePatterns.orderedDateTimes reader.order).findSome? fun p =>
            p.readDateTime (trim text.toList))).or
        (((DatePatterns.isoDates.findSome? fun p => p.readDate (trim text.toList)).or
          ((DatePatterns.orderedDates reader.order).findSome? fun p =>
            p.readDate (trim text.toList))).map Date.atMidnight) := by
  rw [readDateTime]
  split
  · rfl
  · simp only [List.findSome?_append]
    split <;> next hread => rw [hread]; rfl

/-- A date in no ISO notation is read by a notation that depends on the order. -/
theorem exists_ordered_of_readDateTime (h : (reader.readDateTime text).isSome = true)
    (hiso : isIsoDate text = false) :
    ∃ p ∈ DatePatterns.orderedDateTimes reader.order ++ DatePatterns.orderedDates reader.order,
      ∃ d, p.Names (trim text.toList) d := by
  rw [isIsoDate, Bool.or_eq_false_iff, List.any_eq_false, List.any_eq_false] at hiso
  have htimes : DatePatterns.isoDateTimes.findSome?
      (fun p => p.readDateTime (trim text.toList)) = none :=
    List.findSome?_eq_none_iff.mpr fun p hp => Option.not_isSome_iff_eq_none.mp (hiso.1 p hp)
  have hdates : DatePatterns.isoDates.findSome?
      (fun p => p.readDate (trim text.toList)) = none :=
    List.findSome?_eq_none_iff.mpr fun p hp => Option.not_isSome_iff_eq_none.mp (hiso.2 p hp)
  rw [readDateTime_eq, htimes, hdates] at h
  split at h
  · nomatch h
  rw [Option.none_or, Option.none_or, Option.isSome_or, Option.isSome_map, Bool.or_eq_true,
    List.findSome?_isSome_iff, List.findSome?_isSome_iff] at h
  rcases h with ⟨p, hp, hread⟩ | ⟨p, hp, hread⟩
  · obtain ⟨dt, hdt⟩ := Option.isSome_iff_exists.mp hread
    exact ⟨p, List.mem_append_left _ hp, dt.date, Pattern.names_of_readDateTime hdt⟩
  · obtain ⟨d, hd⟩ := Option.isSome_iff_exists.mp hread
    exact ⟨p, List.mem_append_right _ hp, d, Pattern.names_of_readDate hd⟩

/-- **A date in no ISO notation never votes against the order that it is read in.** -/
theorem orderVote_ne_other (h : (reader.readDateTime text).isSome = true)
    (hiso : isIsoDate text = false) : orderVote text.toList ≠ some reader.order.other := by
  intro hvote
  obtain ⟨numbers, hnumbers, hlt⟩ := exists_of_orderVote_other hvote
  obtain ⟨p, hp, d, hd⟩ := exists_ordered_of_readDateTime h hiso
  rcases ordered_shape reader.order p hp with ⟨htake, hnumber, hname⟩ | rfl
  · obtain ⟨c, hc, hfront⟩ := List.mem_map.mp htake
    rw [← List.take_append_drop 5 p, ← hfront] at hd
    have hmark : isDateMark c = true := isDateMark_of_mem_dayMarks hc
    rw [monthOf_leadingNumbers hmark hnumber hname hd hnumbers] at hlt
    exact absurd d.month_le (Nat.not_le.mpr hlt)
  · nomatch (leadingNumbers_of_namedDay hd).symm.trans hnumbers

/-- Of dates that a reader can read, only those in ISO notation vote against its order. -/
theorem orderVotes_other {samples : List String}
    (h : ∀ text ∈ samples, (reader.readDateTime text).isSome = true) :
    orderVotes samples reader.order.other = isoVotes samples reader.order.other := by
  refine List.countP_congr fun text htext => ?_
  cases hiso : isIsoDate text with
  | true => rw [Bool.true_and]
  | false =>
    have hvote := orderVote_ne_other (h text htext) hiso
    simpa using hvote

/-- Every notation of a day with a time has a colon. -/
theorem colon_mem_dateTimes (order : DateOrder) :
    ∀ q ∈ DatePatterns.isoDateTimes ++ DatePatterns.orderedDateTimes order,
      PatternItem.mark ':' ∈ q := by
  cases order <;> decide

/-- A day in ISO notation has no colon, so it is read by no notation of a day with a time. -/
theorem dateTimes_of_isoDates {p : Pattern} (hp : p ∈ DatePatterns.isoDates) {s : Chars}
    (h : (p.readDate s).isSome = true) (order : DateOrder) :
    (DatePatterns.isoDateTimes ++ DatePatterns.orderedDateTimes order).findSome?
      (fun p => p.readDateTime s) = none := by
  have hdigits : ∀ p ∈ DatePatterns.isoDates, (∀ item ∈ p, item.isWord = false) ∧
      p.count (.mark ':') = 0 := by decide
  obtain ⟨hword, hcount⟩ := hdigits p hp
  obtain ⟨d, hd⟩ := Option.isSome_iff_exists.mp h
  obtain ⟨f, hread, -⟩ := Pattern.names_of_readDate hd
  have hcolon : ':' ∉ s :=
    List.count_eq_zero.mp ((count_of_readFields hword hread (by decide)).trans hcount)
  refine List.findSome?_eq_none_iff.mpr fun q hq => Option.eq_none_iff_forall_ne_some.mpr ?_
  intro dt hdt
  obtain ⟨g, hread', -⟩ := Pattern.names_of_readDateTime hdt
  exact hcolon (mem_of_readFields (colon_mem_dateTimes order q hq) hread')

/-- Blank text has no ISO notation. -/
theorem trim_ne_nil_of_isIsoDate (h : isIsoDate text = true) : trim text.toList ≠ [] := by
  intro hnil
  rw [isIsoDate, hnil] at h
  revert h
  decide

/-- A day with a time in ISO notation is read before anything else. -/
theorem readDateTime_of_isoDateTimes {dt : DateTime}
    (h : DatePatterns.isoDateTimes.findSome? (fun p => p.readDateTime (trim text.toList)) = some dt)
    (reader : DateReader) : reader.readDateTime text = some dt := by
  have hiso : isIsoDate text = true := by
    obtain ⟨p, hp, hread⟩ := List.exists_of_findSome?_eq_some h
    rw [isIsoDate, Bool.or_eq_true, List.any_eq_true]
    exact .inl ⟨p, hp, hread ▸ rfl⟩
  rw [readDateTime_eq, if_neg (by simpa using trim_ne_nil_of_isIsoDate hiso), h]
  rfl

/-- A day in ISO notation is read as that, since no notation of a day with a time reads it. -/
theorem readDateTime_of_isoDates {p : Pattern} (hp : p ∈ DatePatterns.isoDates)
    (h : (p.readDate (trim text.toList)).isSome = true) (reader : DateReader) :
    reader.readDateTime text =
      (DatePatterns.isoDates.findSome? fun p => p.readDate (trim text.toList)).map
        Date.atMidnight := by
  have hiso : isIsoDate text = true := by
    rw [isIsoDate, Bool.or_eq_true, List.any_eq_true, List.any_eq_true]
    exact .inr ⟨p, hp, h⟩
  have hfound : (DatePatterns.isoDates.findSome? fun p =>
      p.readDate (trim text.toList)).isSome = true :=
    List.findSome?_isSome_iff.mpr ⟨p, hp, h⟩
  obtain ⟨d, hd⟩ := Option.isSome_iff_exists.mp hfound
  rw [readDateTime_eq, if_neg (by simpa using trim_ne_nil_of_isIsoDate hiso),
    ← List.findSome?_append, dateTimes_of_isoDates hp h, hd]
  rfl

/-- **ISO notation reads the same** in both orders. -/
theorem readDateTime_of_isIsoDate (h : isIsoDate text = true) (reader reader' : DateReader) :
    reader.readDateTime text = reader'.readDateTime text := by
  cases htimes : DatePatterns.isoDateTimes.findSome? fun p =>
    p.readDateTime (trim text.toList) with
  | some dt => rw [readDateTime_of_isoDateTimes htimes, readDateTime_of_isoDateTimes htimes]
  | none =>
    have hdate : ∃ p ∈ DatePatterns.isoDates, (p.readDate (trim text.toList)).isSome = true := by
      rw [isIsoDate, Bool.or_eq_true, List.any_eq_true, List.any_eq_true] at h
      refine h.resolve_left fun ⟨p, hp, hread⟩ => ?_
      rw [List.findSome?_eq_none_iff.mp htimes p hp] at hread
      nomatch hread
    obtain ⟨p, hp, hread⟩ := hdate
    rw [readDateTime_of_isoDates hp hread, readDateTime_of_isoDates hp hread]

/-- The order of the culture gives way to a majority against it. -/
theorem ofSamples_eq (culture : Culture) (samples : List String) :
    ofSamples culture samples =
      if orderVotes samples culture.dateOrder < orderVotes samples culture.dateOrder.other then
        ⟨culture, culture.dateOrder.other⟩
      else ofCulture culture := by
  rw [ofSamples, settleOrder_eq]
  split <;> rfl

end DateReader

end SqlDialects
