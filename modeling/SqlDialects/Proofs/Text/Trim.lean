import Mathlib.Data.List.DropRight
import Mathlib.Data.List.TakeWhile
import SqlDialects.Text.Blank

/-!
# Trimmed text

Trimming takes white space from the ends of a text and nothing else
(`exists_blanks_append_trimStart`, `exists_trimEnd_append_blanks`), so a character that is not white
space stays (`mem_trim`).  What is appended to a text is trimmed on its own if there is more than
white space in it (`trimEnd_append`), and goes as a whole otherwise (`trim_append_of_blank`).
-/

set_option autoImplicit false

namespace SqlDialects

open Text

/-! ## White space at the ends -/

theorem allBlank_iff {s : Chars} : allBlank s = true ↔ ∀ c ∈ s, isBlank c = true :=
  List.all_eq_true

theorem allBlank_append (s t : Chars) : allBlank (s ++ t) = (allBlank s && allBlank t) :=
  List.all_append

theorem dropWhile_isBlank_isEmpty (s : Chars) : (s.dropWhile isBlank).isEmpty = allBlank s := by
  rw [Bool.eq_iff_iff, List.isEmpty_iff, List.dropWhile_eq_nil_iff, allBlank_iff]

/-- White space in front comes off, and nothing else. -/
theorem exists_blanks_append_trimStart (s : Chars) :
    ∃ blanks, s = blanks ++ trimStart s ∧ ∀ c ∈ blanks, isBlank c = true :=
  ⟨s.takeWhile isBlank, (List.takeWhile_append_dropWhile).symm, fun _ hc =>
    List.mem_takeWhile_imp hc⟩

/-- White space at the end comes off, and nothing else. -/
theorem exists_trimEnd_append_blanks (s : Chars) :
    ∃ blanks, s = trimEnd s ++ blanks ∧ allBlank blanks = true := by
  obtain ⟨blanks, hs, hblanks⟩ := exists_blanks_append_trimStart s.reverse
  refine ⟨blanks.reverse, ?_, allBlank_iff.mpr fun c hc => hblanks c (List.mem_reverse.mp hc)⟩
  rw [trimEnd, ← trimStart, ← List.reverse_append, ← hs, List.reverse_reverse]

theorem trim_sublist (s : Chars) : (trim s).Sublist s := by
  obtain ⟨front, hfront, -⟩ := exists_blanks_append_trimStart s
  obtain ⟨back, hback, -⟩ := exists_trimEnd_append_blanks (trimStart s)
  calc (trim s).Sublist (trimEnd (trimStart s) ++ back) := List.sublist_append_left _ _
    _ = trimStart s := hback.symm
    List.Sublist _ (front ++ trimStart s) := List.sublist_append_right _ _
    _ = s := hfront.symm

theorem length_trim_le (s : Chars) : (trim s).length ≤ s.length := (trim_sublist s).length_le

theorem trimStart_of_solid {s : Chars} (h : ∀ c ∈ s, isBlank c = false) : trimStart s = s := by
  cases s with
  | nil => rfl
  | cons c s => exact List.dropWhile_cons_of_neg (by simp [h c])

theorem trimEnd_of_solid {s : Chars} (h : ∀ c ∈ s, isBlank c = false) : trimEnd s = s := by
  rw [trimEnd, ← trimStart, trimStart_of_solid fun c hc => h c (List.mem_reverse.mp hc),
    List.reverse_reverse]

/-- A word is trimmed already. -/
theorem trim_of_solid {s : Chars} (h : ∀ c ∈ s, isBlank c = false) : trim s = s := by
  rw [trim, trimStart_of_solid h, trimEnd_of_solid h]

/-! ## Characters that stay -/

theorem mem_trimStart {c : Char} (hc : isBlank c = false) {s : Chars} (h : c ∈ s) :
    c ∈ trimStart s := by
  obtain ⟨blanks, hs, hblanks⟩ := exists_blanks_append_trimStart s
  refine (List.mem_append.mp (hs ▸ h)).resolve_left fun hmem => ?_
  rw [hblanks c hmem] at hc
  contradiction

theorem mem_trimEnd {c : Char} (hc : isBlank c = false) {s : Chars} (h : c ∈ s) :
    c ∈ trimEnd s := by
  rw [trimEnd, List.mem_reverse]
  exact mem_trimStart hc (List.mem_reverse.mpr h)

theorem mem_trim {c : Char} (hc : isBlank c = false) {s : Chars} (h : c ∈ s) : c ∈ trim s :=
  mem_trimEnd hc (mem_trimStart hc h)

theorem mem_of_mem_trimStart {c : Char} {s : Chars} (h : c ∈ trimStart s) : c ∈ s :=
  (List.dropWhile_sublist isBlank).subset h

theorem mem_of_mem_trimEnd {c : Char} {s : Chars} (h : c ∈ trimEnd s) : c ∈ s := by
  rw [trimEnd, List.mem_reverse] at h
  exact List.mem_reverse.mp (mem_of_mem_trimStart h)

theorem mem_of_mem_trim {c : Char} {s : Chars} (h : c ∈ trim s) : c ∈ s :=
  mem_of_mem_trimStart (mem_of_mem_trimEnd h)

theorem trim_eq_nil_iff {s : Chars} : trim s = [] ↔ allBlank s = true := by
  constructor
  · intro h
    refine allBlank_iff.mpr fun c hc => Bool.of_not_eq_false fun hblank => ?_
    exact List.not_mem_nil (h ▸ mem_trim hblank hc)
  · intro h
    rw [trim, trimStart, List.dropWhile_eq_nil_iff.mpr (allBlank_iff.mp h)]
    rfl

/-! ## Texts put together -/

theorem trimStart_append {s : Chars} (h : allBlank s = false) (t : Chars) :
    trimStart (s ++ t) = trimStart s ++ t := by
  rw [trimStart, List.dropWhile_append, dropWhile_isBlank_isEmpty, h, if_neg Bool.false_ne_true,
    trimStart]

theorem trimEnd_append (s : Chars) {t : Chars} (h : allBlank t = false) :
    trimEnd (s ++ t) = s ++ trimEnd t := by
  have hreverse : allBlank t.reverse = false := by
    rw [allBlank, List.all_reverse]
    exact h
  rw [trimEnd, ← trimStart, List.reverse_append, trimStart_append hreverse, List.reverse_append,
    List.reverse_reverse, trimEnd, trimStart]

theorem trimEnd_concat {c : Char} (hc : isBlank c = false) (s : Chars) :
    trimEnd (s ++ [c]) = s ++ [c] := by
  have hlast : trimEnd [c] = [c] := by
    rw [trimEnd, List.reverse_singleton, List.dropWhile_cons_of_neg (by simp [hc]),
      List.reverse_singleton]
  rw [trimEnd_append s (by simp [allBlank, hc]), hlast]

theorem trimEnd_append_of_blank (s : Chars) {blanks : Chars} (h : allBlank blanks = true) :
    trimEnd (s ++ blanks) = trimEnd s := by
  rw [trimEnd, List.reverse_append, List.dropWhile_append_of_pos, trimEnd]
  exact fun c hc => allBlank_iff.mp h c (List.mem_reverse.mp hc)

theorem trim_append_of_blank (s : Chars) {blanks : Chars} (h : allBlank blanks = true) :
    trim (s ++ blanks) = trim s := by
  cases hs : allBlank s with
  | true => rw [trim_eq_nil_iff.mpr hs, trim_eq_nil_iff, allBlank_append, hs, h, Bool.and_true]
  | false => rw [trim, trimStart_append hs, trimEnd_append_of_blank _ h, trim]

/-! ## Texts trimmed already -/

theorem trimStart_trimStart (s : Chars) : trimStart (trimStart s) = trimStart s :=
  List.dropWhile_idempotent isBlank s

theorem trimEnd_eq_nil {s : Chars} (h : allBlank s = true) : trimEnd s = [] :=
  trimEnd_append_of_blank [] h

theorem trimEnd_trimEnd (s : Chars) : trimEnd (trimEnd s) = trimEnd s := by
  obtain ⟨blanks, hs, hblanks⟩ := exists_trimEnd_append_blanks s
  rw [← trimEnd_append_of_blank _ hblanks, ← hs]

theorem allBlank_trimEnd (s : Chars) : allBlank (trimEnd s) = allBlank s := by
  obtain ⟨blanks, hs, hblanks⟩ := exists_trimEnd_append_blanks s
  rw [← Bool.and_true (allBlank (trimEnd s)), ← hblanks, ← allBlank_append, ← hs]

theorem trim_trimEnd (s : Chars) : trim (trimEnd s) = trim s := by
  obtain ⟨blanks, hs, hblanks⟩ := exists_trimEnd_append_blanks s
  rw [← trim_append_of_blank _ hblanks, ← hs]

end SqlDialects
