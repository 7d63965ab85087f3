import SqlDialects.Proofs.Guess.ExactDecimal
import SqlDialects.Proofs.Guess.MixedColumn
import SqlDialects.Proofs.List

/-!
# Guesses that can be counted

Widths and digits are 32-bit counts, and a guesser stops where one of them is too great: at a text
that is too long, and where a string is made of numbers whose digits, point and sign are too many.
The step that stops is `basicWiden?`; where it goes on it does what `basicWiden` does, of which all
other results about columns are stated.  This file says when it goes on to the end.

* **Numbers** never stop it: as long as no string is guessed, no width is asked for
  (`counts_of_kind_ne_string`).
* **Short texts** never stop it either (`counts_of_isShort`).  The digits on either side of the
  point are few then, which every step keeps (`hasFewDigits_widen`, `hasFewDigits_widenByText`), so
  that a string can be made of them at any time (`textWidth?_eq_some`).
-/

set_option autoImplicit false

namespace SqlDialects

open Text

/-! ## Few digits -/

theorem Count.sum?_one {n : UInt32} (h : n.toNat + 1 < 4294967296) :
    Count.sum? n 1 = some (n + 1) ∧ (n + 1).toNat = n.toNat + 1 :=
  ⟨if_pos h, (UInt32.toNat_add n 1).trans (Nat.mod_eq_of_lt h)⟩

/-- The characters of a number can be counted if there is a count left for the point. -/
theorem DecimalSize.textLength?_eq_some {d : DecimalSize}
    (h : d.beforeDigits.toNat + d.scale.toNat + 1 < 4294967296) :
    d.textLength? = some d.textLength ∧
      d.textLength.toNat ≤ d.beforeDigits.toNat + d.scale.toNat + 1 := by
  have hdigits : d.IsRepresentable := Nat.lt_of_succ_lt h
  have hprecision : d.precision? = some d.precision := (precision?_eq d).trans (if_pos hdigits)
  have hcount := toNat_precision hdigits
  rw [textLength?, textLength, hprecision, Option.bind_eq_bind, Option.bind_some]
  split
  · exact ⟨rfl, by omega⟩
  · obtain ⟨hpoint, hsucc⟩ := Count.sum?_one (n := d.precision) (by omega)
    exact ⟨hpoint, by omega⟩

namespace TypeRequest

/-- The digits on either side of the point are so few that all characters of the numbers can be
counted. -/
def HasFewDigits (r : TypeRequest) : Prop :=
  r.digits.beforeDigits.toNat < 2147483647 ∧ r.digits.scale.toNat < 2147483647

theorem hasFewDigits_of_none {r : TypeRequest} (h : r.decimalSize = none) : r.HasFewDigits := by
  rw [HasFewDigits, digits, h]
  decide

theorem hasFewDigits_ofDigits {r : TypeRequest} {before after : Nat}
    (h : r.decimalSize = some (.ofDigits before after)) (hbefore : before < 2147483647)
    (hafter : after < 2147483647) : r.HasFewDigits := by
  have hb := DecimalSize.toNat_clamp_eq_min before
  have ha := DecimalSize.toNat_clamp_eq_min after
  rw [HasFewDigits, digits, h]
  show (DecimalSize.clamp before).toNat < _ ∧ (DecimalSize.clamp after).toNat < _
  omega

/-- The digits of two requests together are few on either side, if those of each are. -/
theorem hasFewDigits_of_join_or_none {r a b : TypeRequest}
    (h : r.digits = a.digits.join b.digits ∨ r.kind = .string ∧ r.decimalSize = none)
    (ha : a.HasFewDigits) (hb : b.HasFewDigits) : r.HasFewDigits := by
  rcases h with hjoin | ⟨-, hnone⟩
  · rw [HasFewDigits, hjoin, DecimalSize.toNat_beforeDigits_join, DecimalSize.toNat_scale_join]
    exact ⟨max_lt ha.1 hb.1, max_lt ha.2 hb.2⟩
  · exact hasFewDigits_of_none hnone

/-- **A width can be counted** if there are few digits. -/
theorem textWidth?_eq_some {r : TypeRequest} (h : r.HasFewDigits) :
    r.textWidth? = some r.textWidth := by
  obtain ⟨kind, width, size, unicode⟩ := r
  cases size with
  | none => cases kind <;> rfl
  | some d =>
    obtain ⟨hbefore, hscale⟩ : d.beforeDigits.toNat < 2147483647 ∧ d.scale.toNat < 2147483647 := h
    obtain ⟨hlength, hfew⟩ := DecimalSize.textLength?_eq_some (d := d) (by omega)
    have hsign := (Count.sum?_one (n := d.textLength) (by omega)).1
    have hdigits : d.IsRepresentable := by
      rw [DecimalSize.IsRepresentable]
      omega
    have hempty : d.isEmpty? = some d.isEmpty := (DecimalSize.isEmpty?_eq d).trans (if_pos hdigits)
    have hinteger : (do
        if ← d.isEmpty? then return some kind.maxTextWidth
        return some (← Count.sum? (← d.textLength?) 1)) =
        some (some (if d.isEmpty then kind.maxTextWidth else d.textLength + 1)) := by
      rw [hempty, hlength]
      simp only [Option.bind_eq_bind, Option.bind_some, hsign]
      cases d.isEmpty <;> rfl
    cases kind with
    | string | byteArray => rfl
    | decimal => exact congrArg (Option.map _) hlength
    | _ => exact hinteger

end TypeRequest

/-! ## Steps -/

section Steps

variable {a b : TypeRequest}

theorem hasFewDigits_widen (ha : a.HasFewDigits) (hb : b.HasFewDigits) :
    (a.widen b).HasFewDigits :=
  TypeRequest.hasFewDigits_of_join_or_none (TypeRequest.digits_widen_cases a b) ha hb

theorem hasFewDigits_widenByText (ha : a.HasFewDigits) (hb : b.HasFewDigits) :
    (widenByText a b).HasFewDigits :=
  TypeRequest.hasFewDigits_of_join_or_none (digits_widenByText_cases a b) ha hb

/-- What is not widened along the kinds makes a string. -/
theorem kind_widen_of_widensByKind (h : a.widensByKind b = false) : (a.widen b).kind = .string := by
  simp only [TypeRequest.widensByKind, Bool.or_eq_false_iff, beq_eq_false_iff_ne,
    Bool.and_eq_false_iff, Option.isSome_eq_false_iff, Option.isNone_iff_eq_none] at h
  rw [TypeRequest.widen, if_neg h.1]
  rcases h.2 with hnone | hnone
  · rw [hnone]
  · rw [hnone]
    cases a.kind.numericRank <;> rfl

/-- **A width is asked for only to make a string**, and can be counted if there are few digits. -/
theorem widen?_eq_some
    (h : (a.widen b).kind ≠ .string ∨ a.HasFewDigits ∧ b.HasFewDigits) :
    a.widen? b = some (a.widen b) := by
  rw [TypeRequest.widen?]
  cases hkinds : a.widensByKind b with
  | true => rfl
  | false =>
    obtain ⟨ha, hb⟩ := h.resolve_left fun hstring => hstring (kind_widen_of_widensByKind hkinds)
    rw [TypeRequest.textWidth?_eq_some ha, TypeRequest.textWidth?_eq_some hb]
    rfl

theorem widenByText?_eq_some
    (h : (widenByText a b).kind ≠ .string ∨ a.HasFewDigits ∧ b.HasFewDigits) :
    widenByText? a b = some (widenByText a b) := by
  by_cases htruth : a.kind ≠ b.kind ∧ (a.kind = .bool ∨ b.kind = .bool)
  · have hstring : (widenByText a b).kind = .string := by rw [widenByText, if_pos htruth]
    obtain ⟨ha, hb⟩ := h.resolve_left fun hne => hne hstring
    rw [widenByText?, if_pos htruth, TypeRequest.textWidth?_eq_some ha,
      TypeRequest.textWidth?_eq_some hb]
    rfl
  · rw [widenByText, if_neg htruth] at h
    rw [widenByText?, widenByText, if_neg htruth, if_neg htruth]
    exact widen?_eq_some h

end Steps

/-! ## Values -/

/-- Texts are so short that their bytes, with the extra width for characters beyond ASCII, can be
counted, and the digits of two such texts together. -/
def SqlValue.IsShort (settings : GuessSettings) (v : SqlValue) : Prop :=
  ∀ text ∈ v.text?, byteLength text.toList +
    nonAsciiCount text.toList * settings.extraPerNonAscii.toNat < 2147483647

theorem paddedWidth?_eq_some {settings : GuessSettings} {s : Chars}
    (h : byteLength s + nonAsciiCount s * settings.extraPerNonAscii.toNat < 2147483647) :
    paddedWidth? settings s = some (paddedWidth settings s) := by
  have hnonAscii : nonAsciiCount s ≤ s.length := List.countP_le_length
  have hlength := length_le_byteLength s
  have hmarks : (UInt32.ofNat (nonAsciiCount s)).toNat = nonAsciiCount s :=
    UInt32.toNat_ofNat'.trans (Nat.mod_eq_of_lt (by omega))
  have hcharacters : (UInt32.ofNat s.length).toNat = s.length :=
    UInt32.toNat_ofNat'.trans (Nat.mod_eq_of_lt (by omega))
  have hwide : (UInt32.ofNat (nonAsciiCount s)).toNat * settings.extraPerNonAscii.toNat <
      4294967296 := by
    rw [hmarks]
    omega
  have hsum : (UInt32.ofNat s.length).toNat +
      (UInt32.ofNat (nonAsciiCount s) * settings.extraPerNonAscii).toNat < 4294967296 := by
    rw [UInt32.toNat_mul, Nat.mod_eq_of_lt hwide, hmarks, hcharacters]
    omega
  rw [paddedWidth?, Count.product?, if_pos hwide, Option.bind_eq_bind, Option.bind_some]
  exact if_pos hsum

theorem hasFewDigits_wholeGuess {s : Chars} (h : byteLength s < 2147483647) :
    (wholeGuess s).HasFewDigits := by
  have hdrop : byteLength (dropLeadingZeros (dropSigns s)) ≤ byteLength s :=
    byteLength_le_of_sublist ((List.dropWhile_sublist _).trans (List.dropWhile_sublist _))
  have hsize : (wholeGuess s).decimalSize =
      some (.ofDigits (max (byteLength (dropLeadingZeros (dropSigns s))) 1 : Nat) (0 : Nat)) := by
    rw [wholeGuess]
    cases readInt64 s with
    | none => rfl
    | some n =>
      simp only
      split <;> rfl
  exact TypeRequest.hasFewDigits_ofDigits hsize (by omega) (by decide)

theorem IsNumeral.sublist {s whole fraction : Chars} (h : IsNumeral s whole fraction) :
    whole.Sublist s ∧ fraction.Sublist s := by
  obtain ⟨sign, -, hs⟩ := h.spelling
  rcases hs with ⟨rfl, rfl⟩ | rfl
  · exact ⟨List.sublist_append_right _ _, List.nil_sublist _⟩
  · refine ⟨?_, ?_⟩
    · exact (List.sublist_append_left _ _).trans (List.sublist_append_right _ _)
    · exact ((List.sublist_cons_self _ _).trans (List.sublist_append_right _ _)).trans
        (List.sublist_append_right _ _)

theorem hasFewDigits_numberGuess? {s : Chars} {r : TypeRequest} (hr : numberGuess? s = some r)
    (h : byteLength s < 2147483647) : r.HasFewDigits := by
  rw [numberGuess?] at hr
  split at hr
  · contradiction
  split at hr
  · obtain rfl := Option.some.inj hr
    exact hasFewDigits_wholeGuess h
  · obtain ⟨⟨whole, fraction⟩, hparts, rfl⟩ := Option.map_eq_some_iff.mp hr
    obtain ⟨hwhole, hfraction⟩ := (isNumeral_of_decimalParts? hparts).sublist
    have hleading := byteLength_le_of_sublist ((List.dropWhile_sublist (· = '0')).trans hwhole)
    have htrailing := byteLength_le_of_sublist
      ((dropTrailingZeros_sublist fraction).trans hfraction)
    exact TypeRequest.hasFewDigits_ofDigits rfl (Nat.lt_of_le_of_lt hleading h)
      (Nat.lt_of_le_of_lt htrailing h)

/-- A typed integer has few digits. -/
theorem hasFewDigits_integerGuess {kind : TypeKind} {n : Int} (hleast : int64Min ≤ n)
    (hgreatest : n ≤ int64Max) : (integerGuess kind (digitCount n)).HasFewDigits := by
  have hfew := digitCount_le_of_bounds hleast hgreatest
  have hsize : (integerGuess kind (digitCount n)).decimalSize =
      some (.ofDigits (digitCount n) (0 : Nat)) := rfl
  exact TypeRequest.hasFewDigits_ofDigits hsize (by omega) (by decide)

theorem hasFewDigits_size (d : FixedDecimal) : (TypeRequest.decimal d.size).HasFewDigits := by
  obtain ⟨hwhole, places, hplaces, hleast⟩ := d.exists_places
  rw [FixedDecimal.size_eq d hleast]
  exact TypeRequest.hasFewDigits_ofDigits rfl (by omega) (by omega)

/-- **A guess has few digits** unless it is one for a long text. -/
theorem hasFewDigits_guessValue {settings : GuessSettings} {v : SqlValue} (h : v.IsShort settings)
    {r : TypeRequest} (hr : guessValue settings v = some r) : r.HasFewDigits := by
  cases v with
  | text s =>
    have hshort : byteLength (trim s.toList) < 2147483647 := by
      have htrim := byteLength_le_of_sublist (trim_sublist s.toList)
      have hs := h s rfl
      omega
    cases guessedAs_of_guessText hr with
    | number _ hnumber => exact hasFewDigits_numberGuess? hnumber hshort
    | truth | date | time | string => exact TypeRequest.hasFewDigits_of_none rfl
  | null => contradiction
  | byte n =>
    obtain rfl := Option.some.inj hr
    have hn := n.toNat_lt
    exact hasFewDigits_integerGuess (by rw [int64Min]; omega) (by rw [int64Max]; omega)
  | int16 n | int32 n | int64 n =>
    obtain rfl := Option.some.inj hr
    have hleast := n.le_toInt
    have hgreatest := n.toInt_lt
    exact hasFewDigits_integerGuess (by rw [int64Min]; omega) (by rw [int64Max]; omega)
  | double x =>
    obtain rfl := Option.some.inj hr
    cases x.toFixed? with
    | some d => exact hasFewDigits_size d
    | none => exact TypeRequest.hasFewDigits_of_none rfl
  | decimal d =>
    obtain rfl := Option.some.inj hr
    exact hasFewDigits_size d
  | bool | bytes | guid | dateTime | date | time =>
    obtain rfl := Option.some.inj hr
    exact TypeRequest.hasFewDigits_of_none rfl

theorem guessValue?_eq_some {settings : GuessSettings} {v : SqlValue}
    (h : (∀ r ∈ guessValue settings v, r.kind ≠ .string) ∨ v.IsShort settings) :
    guessValue? settings v = some (guessValue settings v) := by
  cases v with
  | text s =>
    rw [guessValue?]
    cases hstring : (guessValue settings (.text s)).any fun r => r.kind == .string with
    | false => rfl
    | true =>
      obtain ⟨r, hr, hkind⟩ := (Option.any_eq_true _ _).mp hstring
      have hshort := h.resolve_left fun hne => hne r hr (beq_iff_eq.mp hkind)
      rw [if_pos rfl, paddedWidth?_eq_some (hshort s rfl)]
      rfl
  | _ => rfl

/-! ## Columns -/

section Columns

variable {settings : GuessSettings} {sofar : Option TypeRequest} {v : SqlValue}
  {values : List SqlValue}

/-- Guesses are joined if they can be, and then have few digits if they had. -/
theorem joinGuesses?_eq_some {join? : TypeRequest → TypeRequest → Option TypeRequest}
    {join : TypeRequest → TypeRequest → TypeRequest}
    (hjoin : ∀ a b, a.HasFewDigits → b.HasFewDigits →
      join? a b = some (join a b) ∧ (join a b).HasFewDigits)
    (hsofar : ∀ a ∈ sofar, a.HasFewDigits) (hv : v.IsShort settings) :
    ((guessValue? settings v).bind fun guess => joinGuesses? join? sofar guess) =
        some (joinGuesses join sofar (guessValue settings v)) ∧
      ∀ r ∈ joinGuesses join sofar (guessValue settings v), r.HasFewDigits := by
  have hguess : ∀ b ∈ guessValue settings v, b.HasFewDigits := fun b hb =>
    hasFewDigits_guessValue hv hb
  rw [guessValue?_eq_some (.inr hv), Option.bind_some]
  cases sofar with
  | none =>
    cases hb : guessValue settings v with
    | none => exact ⟨rfl, fun r hr => by contradiction⟩
    | some b => exact ⟨rfl, fun r hr => hguess r (hb.trans hr)⟩
  | some a =>
    cases hb : guessValue settings v with
    | none => exact ⟨rfl, hsofar⟩
    | some b =>
      obtain ⟨hjoined, hfew⟩ := hjoin a b (hsofar a rfl) (hguess b hb)
      refine ⟨congrArg (Option.map some) hjoined, fun r hr => ?_⟩
      obtain rfl := Option.some.inj hr
      exact hfew

/-- A fold goes on to the end if its steps keep the digits few. -/
theorem isSome_foldlM {step? : Option TypeRequest → SqlValue → Option (Option TypeRequest)}
    (step : Option TypeRequest → SqlValue → Option TypeRequest)
    (h : ∀ sofar : Option TypeRequest, (∀ a ∈ sofar, a.HasFewDigits) → ∀ v ∈ values,
      step? sofar v = some (step sofar v) ∧ ∀ r ∈ step sofar v, r.HasFewDigits) :
    (values.foldlM step? none).isSome = true :=
  Option.isSome_of_eq_some (foldlM_eq_some_foldl h fun a ha => by contradiction)

/-- **Columns of short texts can be counted**, whatever else is in them. -/
theorem counts_of_isShort (h : ∀ v ∈ values, v.IsShort settings) :
    Guesser.basic.counts settings values = true ∧
      Guesser.uniform.counts settings values = true := by
  have hwiden : ∀ a b : TypeRequest, a.HasFewDigits → b.HasFewDigits →
      a.widen? b = some (a.widen b) ∧ (a.widen b).HasFewDigits :=
    fun a b ha hb => ⟨widen?_eq_some (.inr ⟨ha, hb⟩), hasFewDigits_widen ha hb⟩
  have hwidenByText : ∀ a b : TypeRequest, a.HasFewDigits → b.HasFewDigits →
      widenByText? a b = some (widenByText a b) ∧ (widenByText a b).HasFewDigits :=
    fun a b ha hb => ⟨widenByText?_eq_some (.inr ⟨ha, hb⟩), hasFewDigits_widenByText ha hb⟩
  constructor
  · refine isSome_foldlM (basicWiden settings) fun sofar hsofar v hv => ?_
    rw [basicWiden?, basicWiden]
    cases v.text?.isSome with
    | true => exact joinGuesses?_eq_some hwidenByText hsofar (h v hv)
    | false => exact joinGuesses?_eq_some hwiden hsofar (h v hv)
  · exact isSome_foldlM _ fun sofar hsofar v hv => joinGuesses?_eq_some hwiden hsofar (h v hv)

/-- A step that guesses no string asks for no width. -/
theorem basicWiden?_eq_some (h : ∀ r ∈ basicWiden settings sofar v, r.kind ≠ .string) :
    basicWiden? settings sofar v = some (basicWiden settings sofar v) := by
  have hguess : ∀ b ∈ guessValue settings v, b.kind ≠ .string := by
    intro b hb
    cases sofar with
    | none => exact h b (by rw [basicWiden, Option.mem_def.mp hb]; rfl)
    | some a =>
      obtain ⟨r, hr, hkind, -⟩ := exists_basicWiden (a := a) hb
      have hroom := (a.kind.hasRoomFor_widenBy b.kind v.isText).2
      exact TypeKind.ne_string_of_hasRoomFor (hkind ▸ hroom) (h r hr)
  rw [basicWiden?, guessValue?_eq_some (.inl hguess), Option.bind_eq_bind, Option.bind_some]
  rw [basicWiden] at h ⊢
  cases sofar with
  | none => cases guessValue settings v <;> rfl
  | some a =>
    cases hb : guessValue settings v with
    | none => rfl
    | some b =>
      rw [hb] at h
      cases htext : v.text?.isSome with
      | true =>
        rw [htext] at h
        exact congrArg (Option.map some) (widenByText?_eq_some (.inl (h _ rfl)))
      | false =>
        rw [htext] at h
        exact congrArg (Option.map some) (widen?_eq_some (.inl (h _ rfl)))

/-- A column that is not one of strings has not been one before. -/
theorem kind_observed_of_concat (h : ∀ r ∈ observed settings (values ++ [v]), r.kind ≠ .string) :
    ∀ a ∈ observed settings values, a.kind ≠ .string := by
  intro a ha
  cases hb : guessValue settings v with
  | none => exact h a ((observed_concat_of_none hb).trans ha)
  | some b =>
    obtain ⟨r, hr, hkind, -⟩ := observed_concat ha hb
    have hroom := (a.kind.hasRoomFor_widenBy b.kind v.isText).1
    exact TypeKind.ne_string_of_hasRoomFor (hkind ▸ hroom) (h r hr)

/-- **What is guessed as anything but a string can be counted**, however long its texts are. -/
theorem foldlM_basicWiden? (h : ∀ r ∈ observed settings values, r.kind ≠ .string) :
    values.foldlM (basicWiden? settings) none = some (observed settings values) := by
  induction values using List.reverseRecOn with
  | nil => rfl
  | append_singleton values v ih =>
    have hfront := kind_observed_of_concat h
    have hlast : observed settings (values ++ [v]) =
        basicWiden settings (observed settings values) v := List.foldl_append ..
    rw [hlast] at h ⊢
    rw [List.foldlM_append, ih hfront, Option.bind_eq_bind, Option.bind_some, List.foldlM_cons,
      basicWiden?_eq_some h]
    rfl

theorem counts_of_kind_ne_string {r : TypeRequest}
    (h : Guesser.basic.guessColumn settings values = some r) (hkind : r.kind ≠ .string) :
    Guesser.basic.counts settings values = true := by
  obtain ⟨a, ha, rfl⟩ := Option.map_eq_some_iff.mp h
  refine Option.isSome_of_eq_some (foldlM_basicWiden? fun b hb => ?_)
  obtain rfl := Option.some.inj (ha.symm.trans hb)
  rwa [kind_dropDigits] at hkind

end Columns

end SqlDialects
