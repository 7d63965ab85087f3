import SqlDialects.Proofs.Calendar.OrderVote
import SqlDialects.Proofs.List

/-!
# Dates in ISO notation

There are seven ISO notations, five of a day with a time and two of a day alone, and between the two
groups the notations are tried that depend on the order of day and month.  All readers read a text
in ISO notation alike nevertheless, and each notation that can read it reads the same.

* **The marks of a text** are those of the notation (`count_of_readFields`), and by its colons, its
  `T` and its `Z` a text belongs to one notation with a time, or to a day alone.
* **A day with dashes** and a day without are told apart by what follows the year
  (`dashedDay_ne_plainDay`).
* So a text has **one ISO notation** at most (`isoNotation_unique`), and what it means in that
  (`IsoMeans`) is what every reader makes of it (`readDateTime_of_isoMeans`).
-/

set_option autoImplicit false

namespace SqlDialects

open Text

/-! ## The notation of a text -/

/-- The ISO notations. -/
def isoNotations : List Pattern := DatePatterns.isoDateTimes ++ DatePatterns.isoDates

/-- How many colons, and how many of the letters that part a day from a time and end it, a notation
asks for. -/
def isoMarks (p : Pattern) : List Nat := [':', 'T', 'Z'].map fun c => p.count (.mark c)

/-- A text has the marks of the notation that reads it. -/
theorem isoMarks_of_readFields {p : Pattern} (hp : p ∈ isoNotations) {s : Chars} {f : Fields}
    (h : p.readFields {} s = some f) : isoMarks p = [':', 'T', 'Z'].map fun c => s.count c := by
  have hword : ∀ p ∈ isoNotations, ∀ item ∈ p, item.isWord = false := by decide
  refine List.map_congr_left fun c hc => (count_of_readFields (hword p hp) h ?_).symm
  simp only [List.mem_cons, List.not_mem_nil, or_false] at hc
  rcases hc with rfl | rfl | rfl <;> decide

/-- No number begins with a character that is neither a digit nor white space. -/
theorem takeField_eq_none {c : Char} (hblank : isBlank c = false) (hdigit : c.isDigit = false)
    (width : Nat) (rest : Chars) : takeField width (c :: rest) = none := by
  have hfront : trimStart (c :: rest) = c :: rest := List.dropWhile_cons_of_neg (by simp [hblank])
  have hdigits : (takeDigits width (c :: rest)).1 = [] := by
    cases width with
    | zero => rfl
    | succ width => rw [takeDigits, hdigit]; rfl
  rw [takeField, hfront, takeNumber]
  simp only [hdigits]
  rfl

/-- **A day with dashes** is not read as a day without: a dash is no beginning of a month. -/
theorem dashedDay_ne_plainDay {s : Chars} {f g : Fields}
    (hdashed : DatePatterns.isoDay.readFields {} s = some f)
    (hplain : Pattern.readFields [.year, .month, .day] {} s = some g) : False := by
  obtain ⟨f₁, rest, hyear, hread⟩ := readFields_cons.mp hdashed
  obtain ⟨f₂, rest', hmark, -⟩ := readFields_cons.mp hread
  obtain ⟨left, hafter, -⟩ := Option.map_eq_some_iff.mp hmark
  obtain ⟨g₁, rest₂, hyear', hread'⟩ := readFields_cons.mp hplain
  obtain ⟨g₂, rest₃, hmonth, -⟩ := readFields_cons.mp hread'
  -- both have read the same year, and left the same
  obtain ⟨-, rfl⟩ := Prod.mk.inj (Option.some.inj (hyear.symm.trans hyear'))
  rw [after?_eq_some_iff.mp hafter, PatternItem.take] at hmonth
  simp [takeField_eq_none (c := '-') (by decide) (by decide)] at hmonth

/-- **One notation.**  A text has one ISO notation at most. -/
theorem isoNotation_unique {p q : Pattern} (hp : p ∈ isoNotations) (hq : q ∈ isoNotations)
    {s : Chars} {f g : Fields} (hf : p.readFields {} s = some f)
    (hg : q.readFields {} s = some g) : p = q := by
  have hmarks : isoMarks p = isoMarks q :=
    (isoMarks_of_readFields hp hf).trans (isoMarks_of_readFields hq hg).symm
  have hdays : ∀ p ∈ isoNotations, ∀ q ∈ isoNotations, isoMarks p = isoMarks q →
      p = q ∨ p = DatePatterns.isoDay ∧ q = [.year, .month, .day] ∨
        q = DatePatterns.isoDay ∧ p = [.year, .month, .day] := by decide
  rcases hdays p hp q hq hmarks with heq | ⟨rfl, rfl⟩ | ⟨rfl, rfl⟩
  · exact heq
  · exact (dashedDay_ne_plainDay hf hg).elim
  · exact (dashedDay_ne_plainDay hg hf).elim

/-! ## The meaning of a text -/

/-- **A text means a date and time** in ISO notation.  A day alone means its midnight. -/
inductive IsoMeans (text : String) : DateTime → Prop
  | dateTime {p : Pattern} {dt : DateTime} (hp : p ∈ DatePatterns.isoDateTimes)
      (hread : p.readDateTime (trim text.toList) = some dt) : IsoMeans text dt
  | date {p : Pattern} {d : Date} (hp : p ∈ DatePatterns.isoDates)
      (hread : p.readDate (trim text.toList) = some d) : IsoMeans text d.atMidnight

variable {text : String} {dt : DateTime}

/-- **ISO text means the same date everywhere**, whatever the culture and the settled order. -/
theorem readDateTime_of_isoMeans (h : IsoMeans text dt) (reader : DateReader) :
    reader.readDateTime text = some dt := by
  cases h with
  | @dateTime p _ hp hread =>
    refine DateReader.readDateTime_of_isoDateTimes ?_ reader
    refine findSome?_eq_of_mem hp hread fun q hq dt' hread' => ?_
    obtain ⟨f, hf, -⟩ := Pattern.names_of_readDateTime hread
    obtain ⟨g, hg, -⟩ := Pattern.names_of_readDateTime hread'
    exact isoNotation_unique (List.mem_append_left _ hq) (List.mem_append_left _ hp) hg hf
  | @date p d hp hread =>
    have hfound : DatePatterns.isoDates.findSome? (fun p => p.readDate (trim text.toList)) =
        some d := by
      refine findSome?_eq_of_mem hp hread fun q hq d' hread' => ?_
      obtain ⟨f, hf, -⟩ := Pattern.names_of_readDate hread
      obtain ⟨g, hg, -⟩ := Pattern.names_of_readDate hread'
      exact isoNotation_unique (List.mem_append_right _ hq) (List.mem_append_right _ hp) hg hf
    rw [DateReader.readDateTime_of_isoDates hp (hread ▸ rfl), hfound]
    rfl

/-- The third of February of the year 1, at five past four and 6.7 seconds. -/
def earlyMoment : DateTime :=
  ⟨⟨1, 2, 3, by decide, by decide⟩,
    ⟨4, 5, 6, 700000000, by decide, by decide, by decide, by decide⟩⟩

/-- A text of short numbers, which the notations of either order would read as another day. -/
theorem readDateTime_of_isoMeans_short_numbers :
    IsoMeans " 1-2-3 4:5:6.7" earlyMoment ∧
      DateReader.readDateTime ⟨.enUS, .monthFirst⟩ " 1-2-3 4:5:6.7" = some earlyMoment ∧
      DateReader.readDateTime ⟨.enGB, .dayFirst⟩ " 1-2-3 4:5:6.7" = some earlyMoment := by
  have h : IsoMeans " 1-2-3 4:5:6.7" earlyMoment :=
    .dateTime (p := DatePatterns.isoDay ++ .blank :: DatePatterns.clock) (by decide) (by decide)
  exact ⟨h, readDateTime_of_isoMeans h _, readDateTime_of_isoMeans h _⟩

end SqlDialects
