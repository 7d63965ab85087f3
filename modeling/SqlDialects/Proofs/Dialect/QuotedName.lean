import SqlDialects.Dialect.Quotes

/-!
# The grammar of quoted names

A quoted name is an opening mark, a body in which closing marks come in pairs only, and a closing
mark.  `Quotes.quote` writes nothing else, and everything of that form is something it writes
(`isName_iff_exists_quote`).  A qualified name is a sequence of quoted names with points between
them; where a dialect allows it, a part between two points is left empty.

Whether a text is such a sequence is told by reading it once from left to right.  The reader is
`Place.run`: all it has to remember is whether a name is about to begin, whether it is inside of
one, or whether the last thing it saw was a mark that may close a name or be the first of a pair.

## Main statements

* `isNameSequence_iff` — a text is a sequence of quoted names if the reader ends behind a mark.
* `isNameSequence_append` — a separator between two texts that begin and end with marks stands
  outside the quotes or inside of them, and nothing else is possible.
* `isNameSequence_intercalate_iff` — the same for any number of parts, of which `PartsFit` speaks.
-/

set_option autoImplicit false

namespace SqlDialects

open Text

namespace Quotes

variable {q : Quotes}

/-! ## Names -/

/-- Closing marks come in pairs only. -/
inductive IsDoubled (q : Quotes) : Chars → Prop
  | nil : IsDoubled q []
  | plain {c : Char} {body : Chars} (hc : c ≠ q.closeMark) (h : IsDoubled q body) :
    IsDoubled q (c :: body)
  | pair {body : Chars} (h : IsDoubled q body) :
    IsDoubled q (q.closeMark :: q.closeMark :: body)

/-- A well-formed quoted name. -/
def IsName (q : Quotes) (t : Chars) : Prop :=
  ∃ body, q.IsDoubled body ∧ t = q.openMark :: body ++ [q.closeMark]

theorem isDoubled_doubleMarks (name : Chars) : q.IsDoubled (q.doubleMarks name) := by
  induction name with
  | nil => exact .nil
  | cons c name ih =>
    rw [doubleMarks]
    split
    · next hc => exact hc ▸ .pair ih
    · next hc => exact .plain hc ih

theorem IsDoubled.exists_eq {body : Chars} (h : q.IsDoubled body) :
    ∃ name, body = q.doubleMarks name := by
  induction h with
  | nil => exact ⟨[], rfl⟩
  | @plain c _ hc _ ih =>
    obtain ⟨name, rfl⟩ := ih
    exact ⟨c :: name, by rw [doubleMarks, if_neg hc]⟩
  | pair _ ih =>
    obtain ⟨name, rfl⟩ := ih
    exact ⟨q.closeMark :: name, by rw [doubleMarks, if_pos rfl]⟩

/-- **The well-formed names are those that are written.** -/
theorem isName_iff_exists_quote {t : Chars} : q.IsName t ↔ ∃ name, t = q.quote name := by
  constructor
  · rintro ⟨body, hbody, rfl⟩
    obtain ⟨name, rfl⟩ := hbody.exists_eq
    exact ⟨name, rfl⟩
  · rintro ⟨name, rfl⟩
    exact ⟨_, isDoubled_doubleMarks name, rfl⟩

/-! ## Sequences of names -/

/-- Quoted names with points between them.  With `gaps`, a part between two points may be empty. -/
inductive IsNameSequence (q : Quotes) (gaps : Bool) : Chars → Prop
  | name {t : Chars} (h : q.IsName t) : IsNameSequence q gaps t
  | point {s t : Chars} (hs : q.IsName s) (ht : IsNameSequence q gaps t) :
    IsNameSequence q gaps (s ++ '.' :: t)
  | gap {s t : Chars} (hgaps : gaps = true) (hs : q.IsName s) (ht : IsNameSequence q gaps t) :
    IsNameSequence q gaps (s ++ '.' :: '.' :: t)

variable {gaps : Bool}

/-- Whatever may follow a name may follow any other one. -/
theorem IsNameSequence.exists_name {t : Chars} (h : q.IsNameSequence gaps t) :
    ∃ s rest, q.IsName s ∧ t = s ++ rest ∧
      ∀ s', q.IsName s' → q.IsNameSequence gaps (s' ++ rest) := by
  cases h with
  | name h => exact ⟨t, [], h, by simp, fun s' hs' => by simpa using .name hs'⟩
  | @point s t hs ht => exact ⟨s, _, hs, rfl, fun s' hs' => .point hs' ht⟩
  | @gap s t hgaps hs ht => exact ⟨s, _, hs, rfl, fun s' hs' => .gap hgaps hs' ht⟩

/-- The first body may be longer by a character that is no closing mark. -/
theorem IsNameSequence.cons_plain {c : Char} {t : Chars} (hc : c ≠ q.closeMark)
    (h : q.IsNameSequence gaps (q.openMark :: t)) :
    q.IsNameSequence gaps (q.openMark :: c :: t) := by
  obtain ⟨s, rest, ⟨body, hbody, rfl⟩, ht, hother⟩ := h.exists_name
  obtain ⟨-, rfl⟩ := List.cons.inj ht
  exact hother (q.openMark :: (c :: body) ++ [q.closeMark]) ⟨_, .plain hc hbody, rfl⟩

/-- The first body may be longer by a pair of closing marks. -/
theorem IsNameSequence.cons_pair {t : Chars} (h : q.IsNameSequence gaps (q.openMark :: t)) :
    q.IsNameSequence gaps (q.openMark :: q.closeMark :: q.closeMark :: t) := by
  obtain ⟨s, rest, ⟨body, hbody, rfl⟩, ht, hother⟩ := h.exists_name
  obtain ⟨-, rfl⟩ := List.cons.inj ht
  exact hother (q.openMark :: (q.closeMark :: q.closeMark :: body) ++ [q.closeMark])
    ⟨_, .pair hbody, rfl⟩

theorem isName_empty : q.IsName [q.openMark, q.closeMark] := ⟨[], .nil, rfl⟩

/-! ## Reading from left to right -/

/-- Where the reader of a qualified name stands. -/
inductive Place where
  /-- A name has to begin. -/
  | start
  /-- A name has to begin, or another point leaves a gap. -/
  | afterPoint
  | inside
  /-- Behind a mark that closes the name, unless another one follows. -/
  | behindMark
  /-- Something stands outside the quotes. -/
  | astray
deriving DecidableEq, Repr

/-- Reads a character. -/
def Place.step (q : Quotes) (gaps : Bool) : Place → Char → Place
  | start, c => if c = q.openMark then inside else astray
  | afterPoint, c =>
    if c = q.openMark then inside else if c = '.' ∧ gaps = true then start else astray
  | inside, c => if c = q.closeMark then behindMark else inside
  | behindMark, c =>
    if c = q.closeMark then inside else if c = '.' then afterPoint else astray
  | astray, _ => astray

/-- Reads a text. -/
def Place.run (q : Quotes) (gaps : Bool) (place : Place) (t : Chars) : Place :=
  t.foldl (Place.step q gaps) place

@[simp] theorem run_nil (place : Place) : place.run q gaps [] = place := rfl

@[simp] theorem run_cons (place : Place) (c : Char) (t : Chars) :
    place.run q gaps (c :: t) = (place.step q gaps c).run q gaps t := rfl

theorem run_append (place : Place) (s t : Chars) :
    place.run q gaps (s ++ t) = (place.run q gaps s).run q gaps t := List.foldl_append

theorem run_astray (t : Chars) : Place.astray.run q gaps t = .astray := by
  induction t with
  | nil => rfl
  | cons c t ih => exact ih

/-- What the reader may still have before it at a place. -/
def Place.Accepts (q : Quotes) (gaps : Bool) : Place → Chars → Prop
  | start, t => q.IsNameSequence gaps t
  | afterPoint, t =>
    q.IsNameSequence gaps t ∨ gaps = true ∧ ∃ s, t = '.' :: s ∧ q.IsNameSequence gaps s
  | inside, t => q.IsNameSequence gaps (q.openMark :: t)
  -- an empty name stands for the one that has just been read
  | behindMark, t => q.IsNameSequence gaps (q.openMark :: q.closeMark :: t)
  | astray, _ => False

/-- What a place accepts behind a character, it accepts from the place before with the character in
front. -/
theorem accepts_cons {place : Place} {c : Char} {t : Chars}
    (h : (place.step q gaps c).Accepts q gaps t) : place.Accepts q gaps (c :: t) := by
  cases place with
  | start =>
    rw [Place.step] at h
    split at h
    · next hc => exact hc ▸ h
    · exact h.elim
  | afterPoint =>
    rw [Place.step] at h
    split at h
    · next hc => exact .inl (hc ▸ h)
    · split at h
      · next hc => exact .inr ⟨hc.2, t, by rw [hc.1], h⟩
      · exact h.elim
  | inside =>
    rw [Place.step] at h
    split at h
    · next hc => exact hc ▸ h
    · next hc => exact h.cons_plain hc
  | behindMark =>
    rw [Place.step] at h
    split at h
    · next hc => exact hc ▸ h.cons_pair
    · split at h
      · next hc =>
        subst hc
        -- a point ends the name, and may have another one behind it
        rcases h with h | ⟨hgaps, s, rfl, h⟩
        · exact .point isName_empty h
        · exact .gap hgaps isName_empty h
      · exact h.elim
  | astray => exact h.elim

theorem accepts_of_run {t : Chars} {place : Place} (h : place.run q gaps t = .behindMark) :
    place.Accepts q gaps t := by
  induction t generalizing place with
  | nil =>
    rw [run_nil] at h
    exact h ▸ .name isName_empty
  | cons c t ih => exact accepts_cons (ih h)

theorem run_inside_of_isDoubled {body : Chars} (h : q.IsDoubled body) :
    Place.inside.run q gaps body = .inside := by
  induction h with
  | nil => rfl
  | plain hc _ ih => rwa [run_cons, Place.step, if_neg hc]
  | pair _ ih => rwa [run_cons, Place.step, if_pos rfl, run_cons, Place.step, if_pos rfl]

theorem run_start_of_isName {s : Chars} (h : q.IsName s) :
    Place.start.run q gaps s = .behindMark := by
  obtain ⟨body, hbody, rfl⟩ := h
  rw [List.cons_append, run_cons, Place.step, if_pos rfl, run_append,
    run_inside_of_isDoubled hbody, run_cons, Place.step, if_pos rfl, run_nil]

/-- A text that begins with an opening mark is read behind a point as it is at the front. -/
theorem run_afterPoint {t : Chars} (h : t.head? = some q.openMark) :
    Place.afterPoint.run q gaps t = Place.start.run q gaps t := by
  cases t with
  | nil => simp at h
  | cons c t =>
    rw [List.head?_cons, Option.some_inj] at h
    rw [run_cons, run_cons, h]
    simp [Place.step]

theorem IsName.head?_eq {s : Chars} (h : q.IsName s) (rest : Chars) :
    (s ++ rest).head? = some q.openMark := by
  obtain ⟨body, -, rfl⟩ := h
  rfl

theorem IsNameSequence.head?_eq {t : Chars} (h : q.IsNameSequence gaps t) :
    t.head? = some q.openMark := by
  obtain ⟨s, rest, hs, rfl, -⟩ := h.exists_name
  exact hs.head?_eq rest

/-- No mark is a point. -/
def SparesPoints (q : Quotes) : Prop := q.openMark ≠ '.' ∧ q.closeMark ≠ '.'

theorem run_of_isNameSequence (hq : q.SparesPoints) {t : Chars} (h : q.IsNameSequence gaps t) :
    Place.start.run q gaps t = .behindMark := by
  induction h with
  | name h => exact run_start_of_isName h
  | point hs ht ih =>
    rw [run_append, run_start_of_isName hs, run_cons, Place.step, if_neg hq.2.symm, if_pos rfl,
      run_afterPoint ht.head?_eq, ih]
  | gap hgaps hs ht ih =>
    rw [run_append, run_start_of_isName hs, run_cons, Place.step, if_neg hq.2.symm, if_pos rfl,
      run_cons, Place.step, if_neg hq.1.symm, if_pos ⟨rfl, hgaps⟩, ih]

/-- **The reader knows the sequences of quoted names.** -/
theorem isNameSequence_iff (hq : q.SparesPoints) {t : Chars} :
    q.IsNameSequence gaps t ↔ Place.start.run q gaps t = .behindMark :=
  ⟨run_of_isNameSequence hq, accepts_of_run⟩

instance (q : Quotes) : Decidable q.SparesPoints := inferInstanceAs (Decidable (_ ∧ _))

/-! ## Parts and separators -/

/-- A separator is a point, or two of them where there may be a gap. -/
def IsSeparator (gaps : Bool) (separator : Chars) : Prop :=
  separator = ['.'] ∨ gaps = true ∧ separator = ['.', '.']

/-- The text begins with an opening mark and ends with a closing one. -/
def IsEnclosed (q : Quotes) (t : Chars) : Prop :=
  t.head? = some q.openMark ∧ t.getLast? = some q.closeMark

/-- Only a mark that has been read inside of a name, or the second of a pair, may be the last one of
a text that is not astray. -/
theorem run_of_getLast? (hq : q.SparesPoints) {t : Chars} (h : t.getLast? = some q.closeMark)
    (gaps : Bool) (place : Place) :
    place.run q gaps t = .behindMark ∨ place.run q gaps t = .inside ∨
      place.run q gaps t = .astray := by
  obtain ⟨s, rfl⟩ := List.getLast?_eq_some_iff.mp h
  rw [run_append, run_cons, run_nil]
  cases place.run q gaps s <;> simp only [Place.step] <;> grind [SparesPoints]

/-- A text whose last name is open becomes a sequence with one more closing mark. -/
theorem isNameSequence_append_mark (hq : q.SparesPoints) {t : Chars} :
    q.IsNameSequence gaps (t ++ [q.closeMark]) ↔ Place.start.run q gaps t = .inside := by
  rw [isNameSequence_iff hq, run_append, run_cons, run_nil]
  cases Place.start.run q gaps t <;> simp only [Place.step] <;> grind [SparesPoints]

theorem run_separator (hq : q.SparesPoints) {separator : Chars} (h : IsSeparator gaps separator)
    {t : Chars} (ht : t.head? = some q.openMark) :
    Place.behindMark.run q gaps (separator ++ t) = Place.start.run q gaps t := by
  rcases h with rfl | ⟨hgaps, rfl⟩
  · rw [List.singleton_append, run_cons, Place.step, if_neg hq.2.symm, if_pos rfl,
      run_afterPoint ht]
  · rw [List.cons_append, List.singleton_append, run_cons, Place.step, if_neg hq.2.symm,
      if_pos rfl, run_cons, Place.step, if_neg hq.1.symm, if_pos ⟨rfl, hgaps⟩]

theorem run_inside_separator (hq : q.SparesPoints) {separator : Chars}
    (h : IsSeparator gaps separator) : Place.inside.run q gaps separator = .inside := by
  rcases h with rfl | ⟨-, rfl⟩ <;> simp [Place.step, hq.2.symm]

/-- **A separator between two enclosed texts** stands outside the quotes, and then both are
sequences; or it stands inside a name that the first one leaves open and the second one closes. -/
theorem isNameSequence_append (hq : q.SparesPoints) {separator : Chars}
    (hsep : IsSeparator gaps separator) {s t : Chars} (hs : s.getLast? = some q.closeMark)
    (ht : t.head? = some q.openMark) :
    q.IsNameSequence gaps (s ++ (separator ++ t)) ↔
      q.IsNameSequence gaps s ∧ q.IsNameSequence gaps t ∨
        q.IsNameSequence gaps (s ++ [q.closeMark]) ∧ q.IsNameSequence gaps (q.openMark :: t) := by
  have hopen : Place.start.run q gaps (q.openMark :: t) = Place.inside.run q gaps t := by
    rw [run_cons, Place.step, if_pos rfl]
  rw [isNameSequence_append_mark hq]
  simp only [isNameSequence_iff hq, hopen]
  rw [run_append]
  rcases run_of_getLast? hq hs gaps .start with h | h | h
  · simp [h, run_separator hq hsep ht]
  · simp [h, run_append, run_inside_separator hq hsep]
  · simp [h, run_astray]

/-- The first part and the others, with separators between them, make up a sequence of names: every
part is one of its own, or it leaves its last name open and the next part goes on inside of it. -/
def FitsBefore (q : Quotes) (gaps : Bool) : (first : Chars) → (rest : List Chars) → Prop
  | first, [] => q.IsNameSequence gaps first
  | first, second :: rest =>
    q.IsNameSequence gaps first ∧ FitsBefore q gaps second rest ∨
      q.IsNameSequence gaps (first ++ [q.closeMark]) ∧
        FitsBefore q gaps (q.openMark :: second) rest

/-- The parts, of which there is one at least, fit together. -/
def PartsFit (q : Quotes) (gaps : Bool) : (parts : List Chars) → Prop
  | [] => False
  | first :: rest => q.FitsBefore gaps first rest

theorem head?_intercalate {separator first : Chars} (h : first.head? = some q.openMark)
    (rest : List Chars) : (separator.intercalate (first :: rest)).head? = some q.openMark := by
  cases rest with
  | nil => rwa [List.intercalate_singleton]
  | cons second rest =>
    rw [List.intercalate_cons_cons, List.append_assoc, List.head?_append, h]
    rfl

theorem isNameSequence_intercalate_cons (hq : q.SparesPoints) {separator : Chars}
    (hsep : IsSeparator gaps separator) {first : Chars} {rest : List Chars}
    (hfirst : first.getLast? = some q.closeMark) (hrest : ∀ part ∈ rest, q.IsEnclosed part) :
    q.IsNameSequence gaps (separator.intercalate (first :: rest)) ↔
      q.FitsBefore gaps first rest := by
  induction rest generalizing first with
  | nil => rw [List.intercalate_singleton, FitsBefore]
  | cons second rest ih =>
    rw [List.forall_mem_cons] at hrest
    obtain ⟨⟨hhead, hlast⟩, hrest⟩ := hrest
    have hopen : (q.openMark :: second).getLast? = some q.closeMark := by
      rw [List.getLast?_cons, hlast, Option.getD_some]
    rw [List.intercalate_cons_cons, List.append_assoc,
      isNameSequence_append hq hsep hfirst (head?_intercalate hhead rest),
      ← List.intercalate_cons_cons_left, ih hlast hrest, ih hopen hrest, FitsBefore]

/-- **Parts fit together** just when they make up a sequence of names. -/
theorem isNameSequence_intercalate_iff (hq : q.SparesPoints) {separator : Chars}
    (hsep : IsSeparator gaps separator) {parts : List Chars} (hne : parts ≠ [])
    (h : ∀ part ∈ parts, q.IsEnclosed part) :
    q.IsNameSequence gaps (separator.intercalate parts) ↔ q.PartsFit gaps parts := by
  cases parts with
  | nil => exact absurd rfl hne
  | cons first rest =>
    rw [List.forall_mem_cons] at h
    exact isNameSequence_intercalate_cons hq hsep h.1.2 h.2

/-- Parts that are sequences themselves fit together. -/
theorem partsFit_of_forall {parts : List Chars} (hne : parts ≠ [])
    (h : ∀ part ∈ parts, q.IsNameSequence gaps part) : q.PartsFit gaps parts := by
  cases parts with
  | nil => exact absurd rfl hne
  | cons first rest =>
    rw [PartsFit]
    induction rest generalizing first with
    | nil => exact h first List.mem_cons_self
    | cons second rest ih =>
      rw [List.forall_mem_cons] at h
      exact .inl ⟨h.1, ih second (by simp) h.2⟩

end Quotes

end SqlDialects
