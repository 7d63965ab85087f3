import SqlDialects.DecimalSize

/-!
# Digit counts as numbers

Digit counts are 32-bit words, and their sum need not be one.  A size is *representable* when it
is.  Then its digits can be counted (`precision?_eq`), they are as many as its two counts come to,
and the precision and scale that are written for it determine the size.
-/

set_option autoImplicit false

namespace SqlDialects

theorem toNat_max (a b : UInt32) : (max a b).toNat = max a.toNat b.toNat := by
  rw [show max a b = if a ≤ b then b else a from rfl]
  split
  · next h => rw [Nat.max_eq_right (UInt32.le_iff_toNat_le.mp h)]
  · next h => rw [Nat.max_eq_left (Nat.le_of_not_le (mt UInt32.le_iff_toNat_le.mpr h))]

theorem word_max_self (a : UInt32) : max a a = a :=
  UInt32.toNat_inj.mp (by rw [toNat_max, Nat.max_self])

theorem word_max_comm (a b : UInt32) : max a b = max b a :=
  UInt32.toNat_inj.mp (by rw [toNat_max, toNat_max, Nat.max_comm])

theorem word_zero_max (a : UInt32) : max 0 a = a :=
  UInt32.toNat_inj.mp (by rw [toNat_max]; exact Nat.zero_max _)

theorem word_max_ne_zero {a : UInt32} (h : a ≠ 0) (b : UInt32) : max a b ≠ 0 := by
  rw [ne_eq, ← UInt32.toNat_inj, show UInt32.toNat 0 = 0 from rfl] at h ⊢
  rw [toNat_max]
  omega

namespace DecimalSize

/-- The digits of the size can be counted in 32 bits. -/
def IsRepresentable (d : DecimalSize) : Prop := d.beforeDigits.toNat + d.scale.toNat < 4294967296

instance (d : DecimalSize) : Decidable d.IsRepresentable :=
  inferInstanceAs (Decidable (d.beforeDigits.toNat + d.scale.toNat < 4294967296))

theorem precision?_eq (d : DecimalSize) :
    d.precision? = if d.IsRepresentable then some d.precision else none := rfl

theorem isEmpty?_eq (d : DecimalSize) :
    d.isEmpty? = if d.IsRepresentable then some d.isEmpty else none := by
  rw [isEmpty?, precision?_eq]
  split <;> rfl

theorem render?_eq (d : DecimalSize) :
    d.render? = if d.IsRepresentable then some d.render else none := by
  rw [render?, precision?_eq]
  split <;> rfl

/-- Integers are cut down to the range of the counts. -/
theorem toNat_clamp_eq_min (n : Int) : (clamp n).toNat = min n.toNat 4294967295 := by
  rw [clamp, UInt32.toNat_ofNat']
  omega

theorem toNat_clamp {n : Int} (h : 0 ≤ n) (h' : n ≤ 4294967295) : (clamp n).toNat = n.toNat := by
  rw [toNat_clamp_eq_min]
  omega

theorem clamp_toNat (w : UInt32) : clamp w.toNat = w := by
  have hw := w.toNat_lt
  apply UInt32.toNat_inj.mp
  rw [toNat_clamp (by omega) (by omega)]
  rfl

/-- The counts of a representable size add up to its precision. -/
theorem toNat_precision {d : DecimalSize} (h : d.IsRepresentable) :
    d.precision.toNat = d.beforeDigits.toNat + d.scale.toNat := by
  rw [precision, UInt32.toNat_add, Nat.mod_eq_of_lt h]

theorem same_iff {d e : DecimalSize} :
    d.same e = true ↔ d.beforeDigits = e.beforeDigits ∧ d.scale = e.scale := by
  simp [same]

theorem same_refl (d : DecimalSize) : d.same d = true := same_iff.mpr ⟨rfl, rfl⟩

/-- The precision and scale that are written for a representable size determine it. -/
theorem ofPrecisionScale_same {d : DecimalSize} (h : d.IsRepresentable) :
    (ofPrecisionScale d.precision.toNat d.scale.toNat).same d = true := by
  have hb := d.beforeDigits.toNat_lt
  have hs := d.scale.toNat_lt
  have hmod : Int.bmod ((d.precision.toNat : Int) - d.scale.toNat) 18446744073709551616 =
      d.beforeDigits.toNat := by
    rw [toNat_precision h, Int.bmod_eq_of_le (by omega) (by omega)]
    omega
  rw [ofPrecisionScale, show Nat.pow 2 64 = 18446744073709551616 from rfl, hmod, same_iff]
  exact ⟨clamp_toNat _, clamp_toNat _⟩

theorem toNat_beforeDigits_join (d e : DecimalSize) :
    (d.join e).beforeDigits.toNat = max d.beforeDigits.toNat e.beforeDigits.toNat := by
  obtain ⟨before, after⟩ := d
  obtain ⟨before', after'⟩ := e
  cases before <;> cases before' <;> simp [join, maxDigits, beforeDigits, toNat_max]

theorem toNat_scale_join (d e : DecimalSize) :
    (d.join e).scale.toNat = max d.scale.toNat e.scale.toNat := by
  obtain ⟨before, after⟩ := d
  obtain ⟨before', after'⟩ := e
  cases after <;> cases after' <;> simp [join, maxDigits, scale, toNat_max]

end DecimalSize

end SqlDialects
