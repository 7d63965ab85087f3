import SqlDialects.Proofs.Guess.Column

/-!
# The width of a guessed column

A column that turns out to be one of strings has been something else before, unless its first text
is a string already.  What has been guessed until then leaves room for its texts by its digits and
by the greatest widths of its kind, and from then on every text leaves room of its own:

* **The front** of a column are the texts up to the first one of another family.  Numbers among them
  join their digits; if one is a decimal, there is room for these digits and a point, else for the
  digits and a sign.
* **The others** each widen the string to their own room.

`reservedWidth` is the width that comes of this, and a column admits its texts just when none of
them is longer (`guessColumn_width_iff`).  Texts that are guessed as strings never are, as long as
their widths can be counted.  Others may be: a decimal has no room for its sign, for zeros in front
of it and at its end, nor any text for the blanks around it.
-/

set_option autoImplicit false

namespace SqlDialects

open Text

/-! ## Room -/

/-- The room for numbers: decimals need their digits and a point, integers their digits and a
sign. -/
def numberRoom (decimal : Bool) (size : DecimalSize) : UInt32 :=
  if decimal then max size.textLength 1 else size.textLength + 1

theorem room_of_isNumeric {r : TypeRequest} (h : IsTextRequest r)
    (hnumeric : r.kind.isNumeric = true) :
    r.room = numberRoom (r.kind == .decimal) r.digits := by
  obtain ⟨before, after, hr, hdigits⟩ := h.exists_numberOf hnumeric
  generalize hk : r.kind = kind at *
  subst hr
  rcases hdigits with rfl | ⟨hbefore, rfl⟩
  · rfl
  · have hempty : DecimalSize.isEmpty ⟨some before, some 0⟩ = false := by
      simp [DecimalSize.isEmpty, DecimalSize.precision, DecimalSize.beforeDigits,
        DecimalSize.scale, hbefore]
    cases kind <;> first | contradiction |
      simp [TypeRequest.room, TypeRequest.textWidth, numberOf, numberRoom, TypeRequest.digits,
        hempty]

theorem room_stringOf (width : UInt32) (unicode : Bool) : (stringOf width unicode).room = width :=
  rfl

/-- The greater of a width and the room for further requests. -/
def widest (width : UInt32) (rs : List TypeRequest) : UInt32 :=
  rs.foldl (fun w r => max w r.room) width

theorem le_widest (width : UInt32) (rs : List TypeRequest) :
    width.toNat ≤ (widest width rs).toNat := by
  induction rs generalizing width with
  | nil => exact Nat.le_refl _
  | cons r rs ih =>
    have hstep := ih (max width r.room)
    rw [toNat_max] at hstep
    exact (Nat.le_max_left _ _).trans hstep

theorem room_le_widest (width : UInt32) {rs : List TypeRequest} {r : TypeRequest} (h : r ∈ rs) :
    r.room.toNat ≤ (widest width rs).toNat := by
  induction rs generalizing width with
  | nil => contradiction
  | cons s rs ih =>
    rcases List.mem_cons.mp h with rfl | h
    · have hstep := le_widest (max width r.room) rs
      rw [toNat_max] at hstep
      exact (Nat.le_max_right _ _).trans hstep
    · exact ih (max width s.room) h

/-- The room for requests of one family. -/
def frontRoom (first : TypeRequest) (front : List TypeRequest) : UInt32 :=
  if first.kind.isNumeric then
    numberRoom (anyDecimal (first :: front)) (joinedDigits (first :: front))
  else widest first.room front

/-- **The width that a column of these guesses gets** once it is one of strings. -/
def reservedWidth : List TypeRequest → UInt32
  | [] => 0
  | first :: rest =>
    widest (frontRoom first (rest.takeWhile fun r => sameFamily first.kind r.kind))
      (rest.dropWhile fun r => sameFamily first.kind r.kind)

/-! ## The front -/

theorem foldl_widenByText_same {first : TypeRequest} (hfirst : IsTextRequest first)
    {front : List TypeRequest} (hfront : ∀ r ∈ front, r = first) :
    front.foldl widenByText first = first ∧ widest first.room front = first.room := by
  induction front with
  | nil => exact ⟨rfl, rfl⟩
  | cons r front ih =>
    rw [List.forall_mem_cons] at hfront
    obtain ⟨rfl, hfront⟩ := hfront
    rw [List.foldl_cons, widenByText_self hfirst, widest, List.foldl_cons, word_max_self]
    exact ih hfront

/-- What is guessed at the end of the front, and the room that it leaves. -/
theorem foldl_widenByText_front {first : TypeRequest} {front : List TypeRequest}
    (hfirst : IsTextRequest first) (hstring : first.kind ≠ .string)
    (hfront : ∀ r ∈ front, IsTextRequest r ∧ sameFamily first.kind r.kind = true) :
    sameFamily first.kind (front.foldl widenByText first).kind = true ∧
      (front.foldl widenByText first).room = frontRoom first front := by
  rw [frontRoom]
  by_cases hnumeric : first.kind.isNumeric = true
  · have hnumbers : ∀ r ∈ front, IsTextRequest r ∧ r.kind.isNumeric = true := by
      intro r hr
      obtain ⟨hreq, hfamily⟩ := hfront r hr
      exact ⟨hreq, isNumeric_of_sameFamily hfamily hnumeric⟩
    obtain ⟨hkind, hdecimal, hdigits⟩ := foldl_widenByText_numbers hfirst hnumeric hnumbers
    have hreq := isTextRequest_foldl hfirst fun r hr => (hfront r hr).1
    rw [if_pos hnumeric, room_of_isNumeric hreq hkind, hdecimal, hdigits]
    exact ⟨by simp [sameFamily, hnumeric, hkind], rfl⟩
  · have hsame : ∀ r ∈ front, r = first := fun r hr =>
      hfirst.eq_of_sameFamily (hfront r hr).1 (by simpa using hnumeric) hstring (hfront r hr).2
    obtain ⟨hfold, hwidest⟩ := foldl_widenByText_same hfirst hsame
    rw [if_neg hnumeric, hfold, hwidest]
    exact ⟨by simp [sameFamily], rfl⟩

/-! ## Strings -/

/-- A string makes room for everything that follows. -/
theorem foldl_widenByText_string {rs : List TypeRequest} (h : ∀ r ∈ rs, IsTextRequest r)
    (width : UInt32) (unicode : Bool) :
    ∃ unicode', rs.foldl widenByText (stringOf width unicode) =
      stringOf (widest width rs) unicode' := by
  induction rs generalizing width unicode with
  | nil => exact ⟨unicode, rfl⟩
  | cons r rs ih =>
    rw [List.forall_mem_cons] at h
    rw [List.foldl_cons, widenByText_string h.1]
    exact ih h.2 _ _

/-- Families are told apart by any of their kinds. -/
theorem sameFamily_eq_false_of_sameFamily {a b c : TypeKind} (hab : sameFamily a b = true)
    (hac : sameFamily a c = false) : sameFamily b c = false := by
  rw [sameFamily_eq_false_iff] at hac ⊢
  rw [sameFamily, Bool.or_eq_true, beq_iff_eq, Bool.and_eq_true] at hab
  rcases hab with rfl | ⟨ha, hb⟩
  · exact hac
  · have hc : c.isNumeric = false := by simpa [ha] using hac.2
    refine ⟨?_, .inr hc⟩
    rintro rfl
    rw [hb] at hc
    contradiction

/-- The front of a run, and the others behind it. -/
theorem exists_front (first : TypeRequest) (rest : List TypeRequest) :
    ∃ front beyond, rest = front ++ beyond ∧
      (∀ r ∈ front, sameFamily first.kind r.kind = true) ∧
      (∀ r ∈ beyond.head?, sameFamily first.kind r.kind = false) ∧
      reservedWidth (first :: rest) = widest (frontRoom first front) beyond := by
  refine ⟨_, _, List.takeWhile_append_dropWhile.symm, ?_, ?_, rfl⟩
  · intro r hr
    simpa using List.mem_takeWhile_imp hr
  · intro r hr
    have hhead := List.head?_dropWhile_not (fun r => sameFamily first.kind r.kind) rest
    rw [Option.mem_def.mp hr] at hhead
    simpa using hhead

theorem widest_append (width : UInt32) (rs ss : List TypeRequest) :
    widest width (rs ++ ss) = widest (widest width rs) ss := List.foldl_append

/-- **The width of a string** that comes of a run. -/
theorem room_widenAll {guesses : List TypeRequest} {r : TypeRequest}
    (h : ∀ guess ∈ guesses, IsTextRequest guess) (hr : widenAll guesses = some r)
    (hstring : r.kind = .string) : r.room = reservedWidth guesses := by
  cases guesses with
  | nil => contradiction
  | cons first rest =>
    obtain rfl := Option.some.inj hr
    rw [List.forall_mem_cons] at h
    obtain ⟨hfirst, hrest⟩ := h
    obtain ⟨front, beyond, rfl, hfront, hbeyond, hwidth⟩ := exists_front first rest
    rw [hwidth]
    by_cases hfirst' : first.kind = .string
    · -- a string from the first text on
      obtain ⟨width, unicode, rfl⟩ := hfirst.exists_stringOf hfirst'
      obtain ⟨unicode', hfold⟩ := foldl_widenByText_string hrest width unicode
      rw [hfold, room_stringOf, widest_append]
      rfl
    rw [List.forall_mem_append] at hrest
    obtain ⟨hfamily, hroom⟩ := foldl_widenByText_front hfirst hfirst'
      fun r hr => ⟨hrest.1 r hr, hfront r hr⟩
    rw [List.foldl_append] at hstring ⊢
    cases beyond with
    | nil =>
      -- no string without a text of another family
      rw [List.foldl_nil] at hstring
      rw [hstring] at hfamily
      simp [sameFamily, hfirst', TypeKind.isNumeric, TypeKind.numericRank] at hfamily
    | cons other beyond =>
      obtain ⟨hother, hothers⟩ := List.forall_mem_cons.mp hrest.2
      have hreq := isTextRequest_foldl hfirst hrest.1
      have hne := sameFamily_eq_false_of_sameFamily hfamily (hbeyond other rfl)
      rw [List.foldl_cons, widenByText_of_not_sameFamily hreq hother hne]
      obtain ⟨unicode', hfold⟩ := foldl_widenByText_string hothers _ _
      rw [hfold, room_stringOf, hroom]
      rfl

/-! ## Texts -/

/-- A text that is guessed as a string leaves room for all its characters. -/
theorem length_le_room_guessOf {settings : GuessSettings} {text : String}
    (hstring : (guessOf settings text).kind = .string)
    (hcount : text.length + nonAsciiCount text.toList * settings.extraPerNonAscii.toNat <
      4294967296) :
    text.length ≤ (guessOf settings text).room.toNat := by
  have hroom : (stringGuess settings text.toList).room = paddedWidth settings text.toList := rfl
  have hwidth : (paddedWidth settings text.toList).toNat =
      text.length + nonAsciiCount text.toList * settings.extraPerNonAscii.toNat := by
    rw [paddedWidth, UInt32.toNat_add, UInt32.toNat_mul, UInt32.toNat_ofNat', UInt32.toNat_ofNat',
      String.length_toList, Nat.mod_mul_mod, ← Nat.add_mod, Nat.mod_eq_of_lt hcount]
  rw [guessOf_eq_stringGuess hstring, hroom, hwidth]
  exact Nat.le_add_right _ _

/-- Strings keep their room wherever they stand. -/
theorem room_le_reservedWidth {guesses : List TypeRequest} {r : TypeRequest} (hr : r ∈ guesses)
    (hstring : r.kind = .string) : r.room.toNat ≤ (reservedWidth guesses).toNat := by
  cases guesses with
  | nil => contradiction
  | cons first rest =>
    obtain ⟨front, beyond, rfl, hfront, -, hwidth⟩ := exists_front first rest
    rw [hwidth]
    rw [List.mem_cons, List.mem_append, ← or_assoc] at hr
    rcases hr with hr | hr
    · refine Nat.le_trans ?_ (le_widest _ _)
      have hfirst : first.kind = .string := by
        rcases hr with rfl | hr
        · exact hstring
        · have hfamily := hfront r hr
          rw [hstring] at hfamily
          simpa [sameFamily, TypeKind.isNumeric, TypeKind.numericRank] using hfamily
      have hplain : first.kind.isNumeric = false := by
        rw [hfirst]
        rfl
      rw [frontRoom, if_neg (by simp [hplain])]
      rcases hr with rfl | hr
      · exact le_widest _ _
      · exact room_le_widest _ hr
    · exact room_le_widest _ hr

/-! ## Columns -/

/-- **When a column of strings is wide enough for its texts**: just when none of them is longer than
the width that the guesses reserve.  Texts that are guessed as strings are not, if their widths can
be counted in 32 bits. -/
theorem guessColumn_width_iff {settings : GuessSettings} {values : List (Option String)}
    {r : TypeRequest}
    (h : Guesser.basic.guessColumn settings (values.map SqlValue.ofText) = some r)
    (hstring : r.kind = .string) :
    ((∀ text ∈ nonBlankTexts values, ∀ w ∈ r.width, text.length ≤ w.toNat) ↔
      ∀ text ∈ nonBlankTexts values, text.length ≤
        (reservedWidth ((nonBlankTexts values).map (guessOf settings))).toNat) ∧
    ∀ text ∈ nonBlankTexts values, (guessOf settings text).kind = .string →
      text.length + nonAsciiCount text.toList * settings.extraPerNonAscii.toNat < 4294967296 →
      ∀ w ∈ r.width, text.length ≤ w.toNat := by
  rw [guessColumn_text] at h
  obtain ⟨a, ha, rfl⟩ := Option.map_eq_some_iff.mp h
  rw [kind_dropDigits] at hstring
  obtain ⟨width, unicode, rfl⟩ := (isTextRequest_widenAll ha).exists_stringOf hstring
  have hroom := room_widenAll isTextRequest_of_mem_map ha hstring
  rw [room_stringOf] at hroom
  have hwidth : (dropDigits (stringOf width unicode)).width = some width := width_dropDigits _
  simp only [hwidth, Option.mem_def, Option.some_inj, forall_eq', ← hroom, true_and]
  intro text htext hguess hcount
  refine (length_le_room_guessOf hguess hcount).trans ?_
  rw [hroom]
  exact room_le_reservedWidth (List.mem_map_of_mem htext) hguess

/-- A column of truth words and numbers is wide enough. -/
theorem guessColumn_width_truth_and_number :
    Guesser.basic.guessColumn {} ([some "true", some "-12"].map SqlValue.ofText) =
      some (stringOf 5 false) ∧
    ∀ text ∈ nonBlankTexts [some "true", some "-12"], ∀ w ∈ (stringOf 5 false).width,
      text.length ≤ w.toNat := by
  have h : Guesser.basic.guessColumn {} ([some "true", some "-12"].map SqlValue.ofText) =
      some (stringOf 5 false) := by decide
  exact ⟨h, (guessColumn_width_iff h rfl).1.mpr (by decide)⟩

/-- The sign of a decimal has no room. -/
theorem guessColumn_width_without_sign :
    ∃ r w, Guesser.basic.guessColumn {} ([some "-1.5", some "a"].map SqlValue.ofText) = some r ∧
      r.kind = .string ∧ r.width = some w ∧
      "-1.5" ∈ nonBlankTexts [some "-1.5", some "a"] ∧ w.toNat < "-1.5".length :=
  ⟨stringOf 3 false, 3, by decide, rfl, rfl, by decide, by decide⟩

end SqlDialects
