import Mathlib.Data.List.Basic
import Mathlib.Data.List.Induction
import SqlDialects.Proofs.Guess.Step

/-!
# The unicode mark of a guessed column

A text that is guessed as a string is marked as unicode if it holds a character beyond ASCII, and
widening two strings keeps the mark of either.  Truth words break this: as soon as they meet
anything else, the string that comes of it is made anew, without a mark.

So the mark of a column tells of a text only if no truth word follows the text, and if something
else than truth words stands before it or nothing at all.  `KeepsUnicode` says this of a column, and
`guessColumn_unicode_iff` that it decides the mark.
-/

set_option autoImplicit false

namespace SqlDialects

open Text

/-! ## Texts -/

/-- Whether the text holds a character beyond ASCII. -/
def HoldsUnicode (text : String) : Prop := ∃ c ∈ text.toList, 128 ≤ c.toNat

/-- Whether the text says true or false, between blanks or not. -/
def saysTruth (text : String) : Bool := isTruthWord (trim text.toList)

theorem nonAsciiCount_pos_iff {text : String} :
    0 < nonAsciiCount text.toList ↔ HoldsUnicode text := by
  simp [nonAsciiCount, HoldsUnicode, List.countP_pos_iff]

theorem guessOf_kind_ne_bool_iff {settings : GuessSettings} {text : String} :
    (guessOf settings text).kind ≠ .bool ↔ saysTruth text = false := by
  rw [ne_eq, guessOf_kind_eq_bool_iff, saysTruth, Bool.not_eq_true]

/-- Marked are the texts beyond ASCII that are guessed as strings. -/
theorem guessOf_unicode_iff {settings : GuessSettings} {text : String} :
    (guessOf settings text).unicode = true ↔
      (guessOf settings text).kind = .string ∧ HoldsUnicode text := by
  by_cases hstring : (guessOf settings text).kind = .string
  · rw [guessOf_eq_stringGuess hstring, ← nonAsciiCount_pos_iff]
    simp [stringGuess, TypeRequest.string]
  · simp [hstring, (isTextRequest_guessOf settings text).unicode_eq_false hstring]

/-! ## Steps -/

/-- A request with a mark is not for truth values. -/
theorem IsTextRequest.kind_ne_bool_of_unicode {a : TypeRequest} (ha : IsTextRequest a)
    (h : a.unicode = true) : a.kind ≠ .bool := by
  intro hbool
  have hstring : a.kind ≠ .string := by
    rw [hbool]
    decide
  rw [ha.unicode_eq_false hstring] at h
  contradiction

/-- **One step keeps the mark** of either request, unless the other is for truth values. -/
theorem unicode_widenByText {a b : TypeRequest} (ha : IsTextRequest a) (hb : IsTextRequest b) :
    (widenByText a b).unicode = true ↔
      a.unicode = true ∧ b.kind ≠ .bool ∨ b.unicode = true ∧ a.kind ≠ .bool := by
  have hmarked := ha.kind_ne_bool_of_unicode
  have hmarked' := hb.kind_ne_bool_of_unicode
  by_cases hkind : a.kind = b.kind
  · rw [(widenByText_of_kind_eq hkind).2, Bool.or_eq_true]
    exact or_congr (and_iff_left_of_imp (hkind ▸ hmarked)).symm
      (and_iff_left_of_imp (hkind ▸ hmarked')).symm
  rcases widenByText_of_kind_ne ha hb hkind with ⟨⟨hja, hjb⟩, before, after, h⟩ | h
  · -- numbers have no mark
    rw [h, ha.unicode_eq_false (not_string_of_isNumeric hja),
      hb.unicode_eq_false (not_string_of_isNumeric hjb)]
    simp [numberOf]
  · rw [h, stringOf]
    simp only [Bool.and_eq_true, Bool.or_eq_true, bne_iff_ne]
    constructor
    · rintro ⟨⟨hmark | hmark, hne⟩, hne'⟩
      · exact .inl ⟨hmark, hne'⟩
      · exact .inr ⟨hmark, hne⟩
    · rintro (⟨hmark, hne'⟩ | ⟨hmark, hne⟩)
      · exact ⟨⟨.inl hmark, hmarked hmark⟩, hne'⟩
      · exact ⟨⟨.inr hmark, hne⟩, hmarked' hmark⟩

/-! ## Runs -/

/-- The guess for one text more than before. -/
theorem widenAll_map_concat {settings : GuessSettings} {texts : List String} {text : String}
    {r : TypeRequest} (h : widenAll ((texts ++ [text]).map (guessOf settings)) = some r) :
    (texts = [] ∧ r = guessOf settings text) ∨
      ∃ a, widenAll (texts.map (guessOf settings)) = some a ∧
        r = widenByText a (guessOf settings text) := by
  cases texts with
  | nil => exact .inl ⟨rfl, (Option.some.inj h).symm⟩
  | cons first rest =>
    refine .inr ⟨_, rfl, ?_⟩
    rw [List.cons_append, List.map_cons, List.map_append, widenAll, List.foldl_append] at h
    exact (Option.some.inj h).symm

/-- A text with a mark is followed by no truth word, and stands first or behind a text that is
none. -/
def KeepsUnicode (settings : GuessSettings) (texts : List String) : Prop :=
  ∃ before text after, texts = before ++ text :: after ∧
    ((guessOf settings text).kind = .string ∧ HoldsUnicode text) ∧
    (before = [] ∨ ∃ earlier ∈ before, saysTruth earlier = false) ∧
    ∀ later ∈ after, saysTruth later = false

theorem keepsUnicode_nil (settings : GuessSettings) : ¬KeepsUnicode settings [] := by
  rintro ⟨before, text, after, h, -⟩
  simp at h

theorem keepsUnicode_concat {settings : GuessSettings} {texts : List String} {text : String} :
    KeepsUnicode settings (texts ++ [text]) ↔
      KeepsUnicode settings texts ∧ saysTruth text = false ∨
        ((guessOf settings text).kind = .string ∧ HoldsUnicode text) ∧
          (texts = [] ∨ ∃ earlier ∈ texts, saysTruth earlier = false) := by
  constructor
  · rintro ⟨before, marked, after, h, hmarked, hbefore, hafter⟩
    rcases List.eq_nil_or_concat' after with rfl | ⟨after, last, rfl⟩
    · obtain ⟨rfl, hlast⟩ := List.append_inj' h rfl
      obtain rfl := List.singleton_inj.mp hlast
      exact .inr ⟨hmarked, hbefore⟩
    · rw [← List.cons_append, ← List.append_assoc] at h
      obtain ⟨rfl, hlast⟩ := List.append_inj' h rfl
      obtain rfl := List.singleton_inj.mp hlast
      rw [List.forall_mem_append, List.forall_mem_singleton] at hafter
      exact .inl ⟨⟨before, marked, after, rfl, hmarked, hbefore, hafter.1⟩, hafter.2⟩
  · rintro (⟨⟨before, marked, after, rfl, hmarked, hbefore, hafter⟩, htext⟩ | ⟨hmarked, hbefore⟩)
    · refine ⟨before, marked, after ++ [text], by simp, hmarked, hbefore, ?_⟩
      rw [List.forall_mem_append, List.forall_mem_singleton]
      exact ⟨hafter, htext⟩
    · exact ⟨texts, text, [], rfl, hmarked, hbefore, by simp⟩

/-- The guess for a run is that of truth values just when all texts are truth words. -/
theorem widenAll_kind_eq_bool_iff {settings : GuessSettings} {texts : List String}
    {r : TypeRequest} (h : widenAll (texts.map (guessOf settings)) = some r) :
    r.kind = .bool ↔ ∀ text ∈ texts, saysTruth text = true := by
  induction texts using List.reverseRecOn generalizing r with
  | nil => contradiction
  | append_singleton texts text ih =>
    have htext : (guessOf settings text).kind = .bool ↔ saysTruth text = true :=
      guessOf_kind_eq_bool_iff settings text
    rw [List.forall_mem_append, List.forall_mem_singleton, ← htext]
    rcases widenAll_map_concat h with ⟨rfl, rfl⟩ | ⟨a, ha, rfl⟩
    · simp
    · rw [kind_widenByText_eq, TypeKind.widenBy_eq_bool_iff, ih ha]

/-- **The mark of a run.** -/
theorem widenAll_unicode_iff {settings : GuessSettings} {texts : List String} {r : TypeRequest}
    (h : widenAll (texts.map (guessOf settings)) = some r) :
    r.unicode = true ↔ KeepsUnicode settings texts := by
  induction texts using List.reverseRecOn generalizing r with
  | nil => contradiction
  | append_singleton texts text ih =>
    rw [keepsUnicode_concat]
    rcases widenAll_map_concat h with ⟨rfl, rfl⟩ | ⟨a, ha, rfl⟩
    · simp [keepsUnicode_nil, guessOf_unicode_iff]
    have hreq := isTextRequest_widenAll ha
    have hne : texts ≠ [] := by
      rintro rfl
      contradiction
    -- what has been guessed so far is no truth value if some text so far is no truth word
    have hsofar : a.kind ≠ .bool ↔ texts = [] ∨ ∃ earlier ∈ texts, saysTruth earlier = false := by
      rw [ne_eq, widenAll_kind_eq_bool_iff ha]
      simp [hne]
    rw [unicode_widenByText hreq (isTextRequest_guessOf settings text), guessOf_unicode_iff,
      guessOf_kind_ne_bool_iff, hsofar, ih ha]

/-! ## Columns -/

/-- **When the mark of a column tells of its texts.**  It is set just when some text beyond ASCII
keeps its mark; so it says whether there is any text beyond ASCII just when one of those that are
there keeps its mark. -/
theorem guessColumn_unicode_iff {settings : GuessSettings} {values : List (Option String)}
    {r : TypeRequest}
    (h : Guesser.basic.guessColumn settings (values.map SqlValue.ofText) = some r) :
    (r.unicode = true ↔ KeepsUnicode settings (nonBlankTexts values)) ∧
    ((r.unicode = true ↔ ∃ text ∈ nonBlankTexts values, HoldsUnicode text) ↔
      ((∃ text ∈ nonBlankTexts values, HoldsUnicode text) →
        KeepsUnicode settings (nonBlankTexts values))) := by
  rw [guessColumn_text] at h
  obtain ⟨a, ha, rfl⟩ := Option.map_eq_some_iff.mp h
  have hkeeps := widenAll_unicode_iff ha
  have hholds : KeepsUnicode settings (nonBlankTexts values) →
      ∃ text ∈ nonBlankTexts values, HoldsUnicode text := by
    rintro ⟨before, text, after, htexts, hmarked, -⟩
    exact ⟨text, by simp [htexts], hmarked.2⟩
  rw [unicode_dropDigits, hkeeps]
  exact ⟨Iff.rfl, fun hiff => hiff.mpr, fun hkept => ⟨hholds, hkept⟩⟩

/-- A text beyond ASCII behind a number. -/
theorem guessColumn_unicode_behind_number :
    Guesser.basic.guessColumn {} ([some "12", none, some "é"].map SqlValue.ofText) =
      some (stringOf 3 true) ∧
    KeepsUnicode {} (nonBlankTexts [some "12", none, some "é"]) := by
  have h : Guesser.basic.guessColumn {} ([some "12", none, some "é"].map SqlValue.ofText) =
      some (stringOf 3 true) := by decide
  exact ⟨h, (guessColumn_unicode_iff h).1.mp rfl⟩

/-- A truth word behind a text beyond ASCII takes its mark away. -/
theorem guessColumn_unicode_lost :
    ∃ r, Guesser.basic.guessColumn {} ([some "é", some "true"].map SqlValue.ofText) = some r ∧
      r.kind = .string ∧
      ¬(r.unicode = true ↔ ∃ text ∈ nonBlankTexts [some "é", some "true"], HoldsUnicode text) := by
  refine ⟨stringOf 5 false, by decide, rfl, fun hiff => ?_⟩
  have hmarked : (stringOf 5 false).unicode = true :=
    hiff.mpr ⟨"é", by decide, 'é', by decide, by decide⟩
  contradiction

end SqlDialects
