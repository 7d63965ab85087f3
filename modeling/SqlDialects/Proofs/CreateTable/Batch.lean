import Mathlib.Data.List.Infix
import SqlDialects.CreateTable.Batch
import SqlDialects.Proofs.Text.Trim

/-!
# Scripts that are one batch

A script is read line by line, and nothing is known of quotes: a line that is the separator ends a
batch even inside a quoted name.  The lines of a batch are put together again with plain line feeds,
so a carriage return before a line feed is lost.  `Breaks` says of a text that it holds one or the
other, be it a script or a piece of one.

* `breaks_append_cons` — a character of which no separator line is made keeps what is before it
  apart from what is behind it, so that a script breaks just if one of its pieces does.
* `IsFramed.splitBatches_eq_singleton_iff` — a script that begins and ends with such characters is
  one batch and stays as it is, just if it does not break.
-/

set_option autoImplicit false

namespace SqlDialects

open Text

variable {separator : String}

/-! ## Breaks -/

/-- What does not come out of the batches as it went in. -/
inductive IsBreak (separator : String) : Chars → Prop
  /-- A separator line between two line feeds. -/
  | separatorLine {line : Chars} (hline : '\n' ∉ line)
    (hseparator : isSeparatorLine separator line = true) :
    IsBreak separator ('\n' :: (line ++ ['\n']))
  | lineEnd : IsBreak separator ['\r', '\n']

/-- There is a break in the text. -/
def Breaks (separator : String) (s : Chars) : Prop := ∃ w, IsBreak separator w ∧ w <:+: s

/-- A character of which no separator line is made. -/
def IsSolid (separator : String) (c : Char) : Prop :=
  isBlank c = false ∧ c.toLower ∉ lower separator.toList

instance (separator : String) (c : Char) : Decidable (IsSolid separator c) :=
  inferInstanceAs (Decidable (_ ∧ _))

theorem isSeparatorLine_of_mem {c : Char} (hc : IsSolid separator c) {line : Chars}
    (h : c ∈ line) : isSeparatorLine separator line = false := by
  rw [isSeparatorLine, beq_eq_false_iff_ne]
  intro heq
  exact hc.2 (heq ▸ List.mem_map_of_mem (mem_trim hc.1 h))

theorem IsSolid.ne_of_isBlank {c d : Char} (hc : IsSolid separator c) (hd : isBlank d = true) :
    c ≠ d := by
  rintro rfl
  rw [hc.1] at hd
  contradiction

theorem IsBreak.notMem {w : Chars} (h : IsBreak separator w) {c : Char}
    (hc : IsSolid separator c) : c ∉ w := by
  have hfeed : c ≠ '\n' := hc.ne_of_isBlank (by decide)
  have hreturn : c ≠ '\r' := hc.ne_of_isBlank (by decide)
  cases h with
  | separatorLine _ hseparator =>
    simp only [List.mem_cons, List.mem_append, List.not_mem_nil, or_false, not_or]
    refine ⟨hfeed, fun hmem => ?_, hfeed⟩
    rw [isSeparatorLine_of_mem hc hmem] at hseparator
    contradiction
  | lineEnd => simp [hfeed, hreturn]

theorem IsBreak.exists_eq_append {w : Chars} (h : IsBreak separator w) :
    ∃ front, w = front ++ ['\n'] := by
  cases h with
  | @separatorLine line _ _ => exact ⟨'\n' :: line, rfl⟩
  | lineEnd => exact ⟨['\r'], rfl⟩

theorem IsBreak.exists_eq_cons {w : Chars} (h : IsBreak separator w) :
    ∃ c rest, (c = '\n' ∨ c = '\r') ∧ w = c :: rest := by
  cases h with
  | separatorLine => exact ⟨_, _, .inl rfl, rfl⟩
  | lineEnd => exact ⟨_, _, .inr rfl, rfl⟩

/-! ## Pieces -/

theorem not_breaks_nil : ¬ Breaks separator [] := by
  rintro ⟨w, hw, h⟩
  obtain ⟨c, rest, -, rfl⟩ := hw.exists_eq_cons
  simp at h

/-- **A solid character keeps its two sides apart.** -/
theorem breaks_append_cons {c : Char} (hc : IsSolid separator c) (x y : Chars) :
    Breaks separator (x ++ c :: y) ↔ Breaks separator x ∨ Breaks separator y := by
  constructor
  · rintro ⟨w, hw, h⟩
    rcases List.infix_append_iff.mp h with h | h | ⟨front, back, rfl, hfront, hback⟩
    · exact .inl ⟨w, hw, h⟩
    · rcases List.infix_cons_iff.mp h with h | h
      · rcases List.prefix_cons_iff.mp h with rfl | ⟨t, rfl, -⟩
        · exact .inr ⟨_, hw, List.nil_infix⟩
        · exact absurd List.mem_cons_self (hw.notMem hc)
      · exact .inr ⟨w, hw, h⟩
    · rcases List.prefix_cons_iff.mp hback with rfl | ⟨t, rfl, -⟩
      · exact .inl ⟨_, hw, by simpa using hfront.isInfix⟩
      · exact absurd (by simp) (hw.notMem hc)
  · rintro (⟨w, hw, h⟩ | ⟨w, hw, h⟩)
    · exact ⟨w, hw, h.trans (List.prefix_append _ _).isInfix⟩
    · exact ⟨w, hw, h.trans ((List.suffix_cons _ _).trans (List.suffix_append _ _)).isInfix⟩

/-- A text in which the last character of a word is not has nothing of the word at the end. -/
theorem append_infix_append {c : Char} {w f : Chars} (hc : c ∉ f) (x : Chars) :
    w ++ [c] <:+: x ++ f ↔ w ++ [c] <:+: x := by
  refine ⟨fun h => ?_, fun h => h.trans (List.prefix_append _ _).isInfix⟩
  rcases List.infix_append_iff.mp h with h | h | ⟨front, back, heq, hfront, hback⟩
  · exact h
  · exact absurd (h.subset (by simp)) hc
  · rcases List.eq_nil_or_concat back with rfl | ⟨back, d, rfl⟩
    · rw [List.append_nil] at heq
      exact heq ▸ hfront.isInfix
    · rw [List.concat_eq_append] at heq hback
      rw [← List.append_assoc] at heq
      obtain rfl := (List.cons.inj (List.append_inj_right' heq rfl)).1
      exact absurd (hback.subset (by simp)) hc

/-- A text in which the first character of a word is not has nothing of the word at the front. -/
theorem cons_infix_append {c : Char} {w f : Chars} (hc : c ∉ f) (y : Chars) :
    c :: w <:+: f ++ y ↔ c :: w <:+: y := by
  refine ⟨fun h => ?_, fun h => h.trans (List.suffix_append _ _).isInfix⟩
  rcases List.infix_append_iff.mp h with h | h | ⟨front, back, heq, hfront, hback⟩
  · exact absurd (h.subset (by simp)) hc
  · exact h
  · cases front with
    | nil => exact heq ▸ hback.isInfix
    | cons d front =>
      obtain ⟨rfl, -⟩ := List.cons.inj heq
      exact absurd (hfront.subset (by simp)) hc

theorem breaks_append {f : Chars} (hfeed : '\n' ∉ f) (x : Chars) :
    Breaks separator (x ++ f) ↔ Breaks separator x := by
  refine exists_congr fun w => and_congr_right fun hw => ?_
  obtain ⟨start, rfl⟩ := hw.exists_eq_append
  exact append_infix_append hfeed x

/-- A text on one line does not break. -/
theorem not_breaks_of_notMem {f : Chars} (hfeed : '\n' ∉ f) : ¬ Breaks separator f :=
  fun h => not_breaks_nil ((breaks_append hfeed []).mp h)

theorem append_breaks {f : Chars} (hfeed : '\n' ∉ f) (hreturn : '\r' ∉ f) (y : Chars) :
    Breaks separator (f ++ y) ↔ Breaks separator y := by
  refine exists_congr fun w => and_congr_right fun hw => ?_
  obtain ⟨c, rest, rfl | rfl, rfl⟩ := hw.exists_eq_cons
  · exact cons_infix_append hfeed y
  · exact cons_infix_append hreturn y

/-- A text without line ends, in which there is a solid character. -/
structure IsBarrier (separator : String) (f : Chars) : Prop where
  noLineFeed : '\n' ∉ f
  noReturn : '\r' ∉ f
  solid : ∃ c ∈ f, IsSolid separator c

theorem IsBarrier.append {f g : Chars} (hg : IsBarrier separator g) (hfeed : '\n' ∉ f)
    (hreturn : '\r' ∉ f) : IsBarrier separator (f ++ g) where
  noLineFeed := by simp [hfeed, hg.noLineFeed]
  noReturn := by simp [hreturn, hg.noReturn]
  solid := hg.solid.imp fun c hc => ⟨List.mem_append_right f hc.1, hc.2⟩

/-- **A barrier keeps its two sides apart**, too. -/
theorem IsBarrier.breaks_append_append {f : Chars} (hf : IsBarrier separator f) (x y : Chars) :
    Breaks separator (x ++ (f ++ y)) ↔ Breaks separator x ∨ Breaks separator y := by
  obtain ⟨hfeed, hreturn, c, hc, hsolid⟩ := hf
  obtain ⟨front, back, rfl⟩ := List.append_of_mem hc
  simp only [List.mem_append, List.mem_cons, not_or] at hfeed hreturn
  rw [List.append_assoc, List.cons_append, ← List.append_assoc, breaks_append_cons hsolid,
    breaks_append hfeed.1, append_breaks hfeed.2.2 hreturn.2.2]

/-- Pieces with a barrier between each two. -/
theorem IsBarrier.breaks_intercalate {f : Chars} (hf : IsBarrier separator f)
    (pieces : List Chars) :
    Breaks separator (f.intercalate pieces) ↔ ∃ piece ∈ pieces, Breaks separator piece := by
  induction pieces with
  | nil => simp [not_breaks_nil]
  | cons first rest ih =>
    cases rest with
    | nil => simp
    | cons second rest =>
      rw [List.intercalate_cons_cons, List.append_assoc, hf.breaks_append_append, ih,
        List.exists_mem_cons_iff (l := second :: rest)]

/-! ## Framed texts -/

/-- A text that begins and ends with solid characters. -/
structure IsFramed (separator : String) (s : Chars) : Prop where
  head : ∃ c, s.head? = some c ∧ IsSolid separator c
  last : ∃ c, s.getLast? = some c ∧ IsSolid separator c

theorem not_breaks_feed : ¬ Breaks separator ['\n'] := by
  rintro ⟨w, hw, h⟩
  have hle := h.length_le
  cases hw <;> simp at hle

/-- A framed text keeps what is behind it apart from what is in it, and so does it in front. -/
theorem IsFramed.breaks_append {s : Chars} (h : IsFramed separator s) (y : Chars) :
    Breaks separator (s ++ y) ↔ Breaks separator s ∨ Breaks separator y := by
  obtain ⟨c, hc, hsolid⟩ := h.last
  obtain ⟨front, rfl⟩ := List.getLast?_eq_some_iff.mp hc
  rw [List.append_assoc, List.singleton_append, breaks_append_cons hsolid,
    breaks_append_cons hsolid, or_iff_left not_breaks_nil]

theorem IsFramed.append_breaks {s : Chars} (h : IsFramed separator s) (x : Chars) :
    Breaks separator (x ++ s) ↔ Breaks separator x ∨ Breaks separator s := by
  obtain ⟨c, hc, hsolid⟩ := h.head
  obtain ⟨t, rfl⟩ := List.head?_eq_some_iff.mp hc
  have hcons := breaks_append_cons hsolid [] t
  rw [List.nil_append, or_iff_right not_breaks_nil] at hcons
  rw [breaks_append_cons hsolid, hcons]

theorem IsFramed.cons_feed_breaks {s : Chars} (h : IsFramed separator s) :
    Breaks separator ('\n' :: s) ↔ Breaks separator s := by
  rw [← List.singleton_append, h.append_breaks, or_iff_right not_breaks_feed]

theorem IsFramed.append {s t : Chars} (hs : IsFramed separator s) (ht : IsFramed separator t)
    (middle : Chars) : IsFramed separator (s ++ (middle ++ t)) := by
  obtain ⟨c, hc, hc'⟩ := hs.head
  obtain ⟨d, hd, hd'⟩ := ht.last
  refine ⟨⟨c, by rw [List.head?_append, hc, Option.some_or], hc'⟩, ⟨d, ?_, hd'⟩⟩
  rw [List.getLast?_append, List.getLast?_append, hd, Option.some_or, Option.some_or]

/-- Framed texts on lines of their own, with solid characters at the line ends. -/
theorem breaks_intercalate_lines {c : Char} (hc : IsSolid separator c) {first : Chars}
    {rest : List Chars} (h : ∀ piece ∈ first :: rest, IsFramed separator piece) :
    IsFramed separator ([c, '\n'].intercalate (first :: rest)) ∧
      (Breaks separator ([c, '\n'].intercalate (first :: rest)) ↔
        ∃ piece ∈ first :: rest, Breaks separator piece) := by
  induction rest generalizing first with
  | nil => simpa using h
  | cons second rest ih =>
    rw [List.forall_mem_cons] at h
    obtain ⟨hframed, hbreaks⟩ := ih h.2
    rw [List.intercalate_cons_cons, List.append_assoc, List.exists_mem_cons_iff, ← hbreaks]
    refine ⟨h.1.append hframed [c, '\n'], ?_⟩
    rw [List.cons_append, breaks_append_cons hc, List.singleton_append, hframed.cons_feed_breaks]

/-! ## Lines -/

/-- A text has one line, or a first line and a text behind it. -/
theorem lines_induction {motive : Chars → Prop} (last : ∀ line, '\n' ∉ line → motive line)
    (cons : ∀ line rest, '\n' ∉ line → motive rest → motive (line ++ '\n' :: rest)) (s : Chars) :
    motive s := by
  by_cases h : '\n' ∈ s
  · obtain ⟨line, rest, heq, hline⟩ := List.eq_append_cons_of_mem h
    have : rest.length < s.length := by
      rw [heq, List.length_append, List.length_cons]
      omega
    rw [heq]
    exact cons line rest hline (lines_induction last cons rest)
  · exact last s h
termination_by s.length

theorem linesFrom_append {line : Chars} (hline : '\n' ∉ line) (pending rest : Chars) :
    linesFrom pending (line ++ '\n' :: rest) =
      endLine (line.reverse ++ pending) :: linesFrom [] rest := by
  induction line generalizing pending with
  | nil => rfl
  | cons c line ih =>
    rw [List.mem_cons, not_or] at hline
    rw [List.cons_append, linesFrom, ih hline.2, List.reverse_cons, List.append_assoc,
      List.singleton_append]
    exact fun h => hline.1 h.symm

theorem lines_append {line : Chars} (hline : '\n' ∉ line) (rest : Chars) :
    lines (line ++ '\n' :: rest) = endLine line.reverse :: lines rest := by
  rw [lines, linesFrom_append hline, List.append_nil]
  rfl

theorem linesFrom_of_notMem {line : Chars} (hline : '\n' ∉ line) (pending : Chars) :
    linesFrom pending line =
      if (line.reverse ++ pending).isEmpty then [] else [pending.reverse ++ line] := by
  induction line generalizing pending with
  | nil => simp [linesFrom]
  | cons c line ih =>
    rw [List.mem_cons, not_or] at hline
    rw [linesFrom, ih hline.2]
    · simp
    · exact fun h => hline.1 h.symm

theorem lines_of_notMem {line : Chars} (hline : '\n' ∉ line) (hne : line ≠ []) :
    lines line = [line] := by
  rw [lines, linesFrom_of_notMem hline, if_neg (by simpa using hne)]
  rfl

/-- A line keeps its characters, but for a carriage return at its end. -/
theorem endLine_reverse (line : Chars) :
    (line.getLast? ≠ some '\r' ∧ endLine line.reverse = line) ∨
      ∃ front, line = front ++ ['\r'] ∧ endLine line.reverse = front := by
  rcases List.eq_nil_or_concat line with rfl | ⟨front, c, rfl⟩
  · exact .inl ⟨by simp, rfl⟩
  · rw [List.concat_eq_append, List.reverse_append, List.reverse_singleton, List.singleton_append]
    by_cases hc : c = '\r'
    · subst hc
      exact .inr ⟨front, rfl, List.reverse_reverse front⟩
    · refine .inl ⟨by simpa using hc, ?_⟩
      rw [endLine]
      · simp
      · intro h hcons
        exact hc (List.cons.inj hcons).1

/-! ## Separator lines -/

theorem isSeparatorLine_endLine (line : Chars) :
    isSeparatorLine separator (endLine line.reverse) = isSeparatorLine separator line := by
  rcases endLine_reverse line with ⟨-, h⟩ | ⟨front, rfl, h⟩
  · rw [h]
  · have hreturn : allBlank ['\r'] = true := by decide
    rw [h, isSeparatorLine, isSeparatorLine, trim_append_of_blank front hreturn]

/-- Where two texts go on behind their first line, the first lines are the same. -/
theorem line_eq_of_append {line first rest : Chars} (hline : '\n' ∉ line)
    (hfirst : '\n' ∉ first) (h : line ++ ['\n'] <+: first ++ '\n' :: rest) : line = first := by
  obtain ⟨more, h⟩ := h
  rw [List.append_assoc] at h
  rcases List.append_eq_append_iff.mp h with ⟨a, rfl, hrest⟩ | ⟨a, rfl, hrest⟩
  · cases a with
    | nil => rw [List.append_nil]
    | cons c a =>
      obtain ⟨rfl, -⟩ := List.cons.inj hrest
      simp at hfirst
  · cases a with
    | nil => rw [List.append_nil]
    | cons c a =>
      obtain ⟨rfl, -⟩ := List.cons.inj hrest
      simp at hline

/-- The separator lines of a text that ends with a solid character are those that have a line feed
before and behind them, when one more is put in front. -/
theorem exists_mem_lines_iff {c : Char} (hc : IsSolid separator c) (s : Chars) :
    s.getLast? = some c →
    ((∃ g ∈ lines s, isSeparatorLine separator g = true) ↔
      ∃ line, '\n' ∉ line ∧ isSeparatorLine separator line = true ∧
        '\n' :: (line ++ ['\n']) <:+: '\n' :: s) := by
  induction s using lines_induction with
  | last s hs =>
    intro hlast
    have hmem : c ∈ s := List.mem_of_getLast? hlast
    rw [lines_of_notMem hs (List.ne_nil_of_mem hmem)]
    constructor
    · rintro ⟨g, hg, hsep⟩
      obtain rfl := List.mem_singleton.mp hg
      rw [isSeparatorLine_of_mem hc hmem] at hsep
      contradiction
    · rintro ⟨line, -, -, h⟩
      -- only one of its two line feeds is there
      rcases List.infix_cons_iff.mp h with h | h
      · exact absurd (((List.cons_prefix_cons.mp h).2).subset (by simp)) hs
      · exact absurd (h.subset (by simp)) hs
  | cons first rest hfirst ih =>
    intro hlast
    have hrest : rest.getLast? = some c := by
      cases rest with
      | nil => 
        rw [List.getLast?_concat, Option.some_inj] at hlast
        exact absurd hlast.symm (hc.ne_of_isBlank (by decide))
      | cons d rest => simpa [List.getLast?_append] using hlast
    rw [lines_append hfirst, List.exists_mem_cons_iff, isSeparatorLine_endLine, ih hrest]
    constructor
    · rintro (hsep | ⟨line, hline, hsep, h⟩)
      · refine ⟨first, hfirst, hsep, List.IsPrefix.isInfix ⟨rest, ?_⟩⟩
        simp
      · exact ⟨line, hline, hsep, h.trans (List.suffix_append ('\n' :: first) _).isInfix⟩
    · rintro ⟨line, hline, hsep, h⟩
      rcases List.infix_cons_iff.mp h with h | h
      · have hfront := (List.cons_prefix_cons.mp h).2
        exact .inl (line_eq_of_append hline hfirst hfront ▸ hsep)
      · exact .inr ⟨line, hline, hsep, (cons_infix_append hfirst _).mp h⟩

/-! ## Lines put together again -/

/-- Lines with a line feed behind each. -/
def joinLines (lines : List Chars) : Chars := lines.flatMap fun line => line ++ ['\n']

theorem joinLines_cons (line : Chars) (lines : List Chars) :
    joinLines (line :: lines) = line ++ '\n' :: joinLines lines := by
  rw [joinLines, List.flatMap_cons, List.append_assoc, List.singleton_append]
  rfl

theorem joinLines_append (lines more : List Chars) :
    joinLines (lines ++ more) = joinLines lines ++ joinLines more := List.flatMap_append

/-- Reading and writing lines adds a line feed at the end at most. -/
theorem joinLines_lines_sublist (s : Chars) : (joinLines (lines s)).Sublist (s ++ ['\n']) := by
  induction s using lines_induction with
  | last s hs =>
    by_cases hne : s = []
    · subst hne
      exact List.nil_sublist _
    · rw [lines_of_notMem hs hne, joinLines_cons]
      exact List.Sublist.refl _
  | cons line rest hline ih =>
    rw [lines_append hline, joinLines_cons, List.append_assoc, List.cons_append]
    refine List.Sublist.append ?_ (ih.cons_cons '\n')
    rcases endLine_reverse line with ⟨-, h⟩ | ⟨front, rfl, h⟩
    · rw [h]
    · rw [h]
      exact List.sublist_append_left front ['\r']

theorem return_infix_append_iff {line : Chars} (hline : '\n' ∉ line)
    (hlast : line.getLast? ≠ some '\r') (rest : Chars) :
    ['\r', '\n'] <:+: line ++ '\n' :: rest ↔ ['\r', '\n'] <:+: rest := by
  refine ⟨fun h => ?_, fun h => h.trans ((List.suffix_cons _ _).trans
    (List.suffix_append _ _)).isInfix⟩
  have hbehind : ['\r', '\n'] <:+: '\n' :: rest → ['\r', '\n'] <:+: rest :=
    fun h => (List.infix_cons_iff.mp h).resolve_left (by simp)
  rcases List.infix_append_iff.mp h with h | h | ⟨front, back, heq, hfront, hback⟩
  · exact absurd (h.subset (by simp)) hline
  · exact hbehind h
  · match front, heq with
    | [], heq => exact hbehind (heq ▸ hback.isInfix)
    | [c], heq =>
      obtain ⟨rfl, -⟩ := List.cons.inj heq
      obtain ⟨before, rfl⟩ := hfront
      exact absurd List.getLast?_concat hlast
    | c :: d :: front, heq =>
      obtain ⟨-, heq⟩ := List.cons.inj heq
      obtain ⟨rfl, -⟩ := List.cons.inj heq
      exact absurd (hfront.subset (by simp)) hline

/-- A text that does not end with a line feed is read and written as it is, unless a line ends with
a carriage return. -/
theorem joinLines_lines_iff (s : Chars) : s ≠ [] → s.getLast? ≠ some '\n' →
    (joinLines (lines s) = s ++ ['\n'] ↔ ¬ ['\r', '\n'] <:+: s) := by
  induction s using lines_induction with
  | last s hs =>
    intro hne _
    rw [lines_of_notMem hs hne]
    exact iff_of_true (List.append_nil _) fun h => hs (h.subset (by simp))
  | cons line rest hline ih =>
    intro _ hlast
    have hrest : rest ≠ [] := by
      rintro rfl
      simp at hlast
    rw [List.getLast?_append_cons, List.getLast?_cons_of_ne_nil hrest] at hlast
    rw [lines_append hline, joinLines_cons, List.append_assoc, List.cons_append]
    rcases endLine_reverse line with ⟨hreturn, h⟩ | ⟨front, rfl, h⟩
    · rw [h, List.append_cancel_left_eq, List.cons_inj_right, return_infix_append_iff hline hreturn,
        ih hrest hlast]
    · refine iff_of_false ?_ (not_not_intro ⟨front, rest, by simp⟩)
      rw [h, List.append_assoc, List.append_cancel_left_eq]
      simp

theorem exists_joinLines_eq_append (line : Chars) (more : List Chars) :
    ∃ front, joinLines (line :: more) = front ++ ['\n'] := by
  induction more generalizing line with
  | nil => exact ⟨line, joinLines_cons line []⟩
  | cons next more ih =>
    obtain ⟨front, h⟩ := ih next
    exact ⟨line ++ '\n' :: front, by rw [joinLines_cons, h, List.append_assoc, List.cons_append]⟩

/-- The line feed behind the last line goes when the end is trimmed. -/
theorem length_trimEnd_joinLines_lt (line : Chars) (more : List Chars) :
    (trimEnd (joinLines (line :: more))).length < (joinLines (line :: more)).length := by
  obtain ⟨front, h⟩ := exists_joinLines_eq_append line more
  have hfeed : isBlank '\n' = true := by decide
  have hle := (List.dropWhile_sublist isBlank (l := front.reverse)).length_le
  rw [List.length_reverse] at hle
  rw [h, trimEnd, List.reverse_append, List.reverse_singleton, List.singleton_append,
    List.dropWhile_cons_of_pos hfeed, List.length_reverse, List.length_append,
    List.length_singleton]
  omega

theorem trimEnd_append_feed {c : Char} (hc : isBlank c = false) {s : Chars}
    (hlast : s.getLast? = some c) : trimEnd (s ++ ['\n']) = s := by
  obtain ⟨front, rfl⟩ := List.getLast?_eq_some_iff.mp hlast
  have hfeed : allBlank ['\n'] = true := by decide
  rw [trimEnd_append_of_blank _ hfeed, trimEnd_concat hc]

/-- What comes out as the only batch is the script just if its lines are what was read. -/
theorem trimEnd_joinLines_lines_iff {c : Char} (hc : isBlank c = false) {s : Chars}
    (hlast : s.getLast? = some c) :
    trimEnd (joinLines (lines s)) = s ↔ joinLines (lines s) = s ++ ['\n'] := by
  constructor
  · intro h
    cases hlines : lines s with
    | nil =>
      rw [hlines] at h
      rw [← h] at hlast
      contradiction
    | cons line more =>
      have hlt := length_trimEnd_joinLines_lt line more
      rw [← hlines, h] at hlt
      have hsub := joinLines_lines_sublist s
      rw [← hlines]
      refine hsub.eq_of_length_le ?_
      rw [List.length_append, List.length_singleton]
      exact hlt
  · intro h
    rw [h, trimEnd_append_feed hc hlast]

/-! ## Batches -/

/-- Lines that are no separators go to the batch that is being read, and a separator ends it. -/
theorem batchesFrom_append (number start : Nat) {more : List Chars}
    (hmore : ∀ line ∈ more, isSeparatorLine separator line = false) {g : Chars}
    (hg : isSeparatorLine separator g = true) (lines rest : List Chars) :
    batchesFrom separator number (some (start, lines)) (more ++ g :: rest) =
      ⟨start, String.ofList (trimEnd (joinLines (lines.reverse ++ more)))⟩ ::
        batchesFrom separator (number + more.length + 1) none rest := by
  induction more generalizing number lines with
  | nil => rw [List.nil_append, batchesFrom, if_pos hg, List.append_nil]; rfl
  | cons line more ih =>
    rw [List.forall_mem_cons] at hmore
    rw [List.cons_append, batchesFrom, hmore.1, if_neg Bool.false_ne_true, ih _ hmore.2,
      List.reverse_cons, List.append_assoc, List.singleton_append, List.length_cons]
    congr 2
    omega

/-- Every line of a script, a first one that is not blank and those behind it, is read before the
last separator. -/
theorem splitBatches_eq {s : String} {first : Chars} {more : List Chars}
    (hlines : lines s.toList = first :: more) (hblank : allBlank first = false)
    (hfirst : isSeparatorLine separator first = false) :
    splitBatches s separator =
      batchesFrom separator 2 (some (1, [first])) (more ++ [separator.toList]) := by
  rw [splitBatches, hlines, List.cons_append, batchesFrom, hfirst, if_neg Bool.false_ne_true]
  simp only [hblank, Bool.false_eq_true, if_false]

theorem exists_lines_eq_cons {c : Char} (hc : IsSolid separator c) {s : Chars}
    (hhead : s.head? = some c) : ∃ first more, lines s = first :: more ∧ c ∈ first := by
  have hmem : c ∈ s := List.mem_of_head? hhead
  by_cases hfeed : '\n' ∈ s
  · obtain ⟨line, rest, rfl, hline⟩ := List.eq_append_cons_of_mem hfeed
    have hmem : c ∈ line := by
      cases line with
      | nil => exact absurd (Option.some.inj hhead).symm (hc.ne_of_isBlank (by decide))
      | cons d line => exact List.mem_of_head? hhead
    refine ⟨_, _, lines_append hline rest, ?_⟩
    rcases endLine_reverse line with ⟨-, h⟩ | ⟨front, rfl, h⟩
    · rwa [h]
    · rw [h]
      refine (List.mem_append.mp hmem).resolve_right fun hreturn => ?_
      exact hc.ne_of_isBlank (by decide) (List.mem_singleton.mp hreturn)
  · exact ⟨s, [], lines_of_notMem hfeed (List.ne_nil_of_mem hmem), hmem⟩

/-- Where the first line of a script is no separator, nor the last, the breaks are the separator
lines and what is lost at line ends. -/
theorem breaks_iff {c d : Char} (hc : IsSolid separator c) (hd : IsSolid separator d) {s : Chars}
    (hhead : s.head? = some c) (hlast : s.getLast? = some d) :
    Breaks separator s ↔ (∃ g ∈ lines s, isSeparatorLine separator g = true) ∨
      joinLines (lines s) ≠ s ++ ['\n'] := by
  have hne : s ≠ [] := List.ne_nil_of_mem (List.mem_of_head? hhead)
  have hfeed : s.getLast? ≠ some '\n' := by
    rw [hlast, ne_eq, Option.some_inj]
    exact hd.ne_of_isBlank (by decide)
  rw [exists_mem_lines_iff hd s hlast, ne_eq, joinLines_lines_iff s hne hfeed, not_not]
  constructor
  · rintro ⟨_, ⟨hline, hsep⟩ | _, h⟩
    · exact .inl ⟨_, hline, hsep, h.trans (List.suffix_cons _ _).isInfix⟩
    · exact .inr h
  · rintro (⟨line, hline, hsep, h⟩ | h)
    · refine ⟨_, .separatorLine hline hsep, (List.infix_cons_iff.mp h).resolve_left fun h => ?_⟩
      -- a separator line at the front would have the first character of the script
      obtain ⟨t, rfl⟩ := List.head?_eq_some_iff.mp hhead
      have hfront := (List.cons_prefix_cons.mp h).2
      cases line with
      | nil => exact hc.ne_of_isBlank (by decide) (List.cons_prefix_cons.mp hfront).1.symm
      | cons e line =>
        obtain rfl := (List.cons_prefix_cons.mp hfront).1
        rw [isSeparatorLine_of_mem hc List.mem_cons_self] at hsep
        contradiction
    · exact ⟨_, .lineEnd, h⟩

/-- **A framed script** is one batch and stays as it is, if there is no break in it, and only
then. -/
theorem IsFramed.splitBatches_eq_singleton_iff {s : String} (h : IsFramed separator s.toList)
    (hseparator : isSeparatorLine separator separator.toList = true) :
    (splitBatches s separator).map Batch.sql = [s] ↔ ¬ Breaks separator s.toList := by
  obtain ⟨c, hhead, hc⟩ := h.head
  obtain ⟨d, hlast, hd⟩ := h.last
  obtain ⟨first, more, hlines, hmem⟩ := exists_lines_eq_cons hc hhead
  have hfirst := isSeparatorLine_of_mem hc hmem
  have hblank : allBlank first = false := List.all_eq_false.mpr ⟨c, hmem, by simp [hc.1]⟩
  rw [splitBatches_eq hlines hblank hfirst, breaks_iff hc hd hhead hlast]
  cases hfind : more.find? (isSeparatorLine separator) with
  | none =>
    have hmore : ∀ line ∈ more, isSeparatorLine separator line = false := by
      simpa using List.find?_eq_none.mp hfind
    have hnone : ¬ ∃ g ∈ lines s.toList, isSeparatorLine separator g = true := by
      rw [hlines]
      simpa [hfirst] using hmore
    rw [batchesFrom_append 2 1 hmore hseparator, batchesFrom, List.reverse_singleton,
      List.singleton_append, ← hlines, or_iff_right hnone, not_not,
      ← trimEnd_joinLines_lines_iff hd.1 hlast]
    simp [String.ext_iff]
  | some g =>
    obtain ⟨hg, before, after, rfl, hbefore⟩ := List.find?_eq_some_iff_append.mp hfind
    have hbefore : ∀ line ∈ before, isSeparatorLine separator line = false := by
      simpa using hbefore
    rw [List.append_assoc, List.cons_append, batchesFrom_append 2 1 hbefore hg]
    refine iff_of_false (fun h => ?_) (not_not_intro (.inl ⟨g, by simp [hlines], hg⟩))
    -- the first batch is too short
    have htext : trimEnd (joinLines (first :: before)) = s.toList := by
      rw [← (List.cons.inj h).1, String.toList_ofList, List.reverse_singleton,
        List.singleton_append]
    have hlt := length_trimEnd_joinLines_lt first before
    have hle := (joinLines_lines_sublist s.toList).length_le
    rw [htext] at hlt
    rw [hlines, ← List.cons_append, joinLines_append, joinLines_cons g] at hle
    simp only [List.length_append, List.length_cons, List.length_nil] at hle
    omega

end SqlDialects
