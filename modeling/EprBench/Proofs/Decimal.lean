import Mathlib
import EprBench.Value.Convert

/-! Whole numbers as doubles. Those of up to 53 bits come back as they were, and larger ones stay larger. -/
namespace EprBench.Decimal

open Float.Model
open Float.Model.UnpackedFloat

variable {n e : Int} {m q num den : Nat}

/-! ### The fields of a double -/

lemma twoTo_eq (n : Nat) : twoTo n = 2 ^ n := rfl

lemma toNat_append {n : Nat} (high : BitVec n) (low : BitVec m) :
    (high ++ low).toNat = high.toNat * 2 ^ m + low.toNat := by
  rw [BitVec.toNat_append, ← Nat.shiftLeft_add_eq_or_of_lt low.isLt, Nat.shiftLeft_eq]

lemma toNat_unpackSign (b : BitVec Format.binary64.numBits) : (unpackSign b).toNat = b.toNat / 2 ^ 63 := by
  have bound : b.toNat < 2 ^ 64 := b.isLt
  simp [unpackSign, Nat.shiftRight_eq_div_pow]
  omega

lemma toNat_unpackExponent (b : BitVec Format.binary64.numBits) :
    (unpackExponent b).toNat = b.toNat / 2 ^ 52 % 2 ^ 11 := by
  simp [unpackExponent, Nat.shiftRight_eq_div_pow]

lemma toNat_unpackMantissa (b : BitVec Format.binary64.numBits) : (unpackMantissa b).toNat = b.toNat % 2 ^ 52 := by
  simp [unpackMantissa]

lemma packComponents_fields (b : BitVec Format.binary64.numBits) :
    packComponents .binary64 (Sign.ofBitVec (unpackSign b)) (unpackExponent b) (unpackMantissa b) = b := by
  have sign : (Sign.ofBitVec (unpackSign b)).toBitVec = unpackSign b := by
    generalize unpackSign b = s
    revert s
    decide
  apply BitVec.eq_of_toNat_eq
  rw [packComponents, sign, toNat_append, toNat_append, toNat_unpackSign, toNat_unpackExponent, toNat_unpackMantissa]
  change (b.toNat / 2 ^ 63 * 2 ^ 11 + b.toNat / 2 ^ 52 % 2 ^ 11) * 2 ^ 52 + b.toNat % 2 ^ 52 = b.toNat
  omega

lemma pack_unpack {b : BitVec Format.binary64.numBits} (finite : (unpackExponent b).toNat ≠ 2047) :
    UnpackedFloat.pack .binary64 (UnpackedFloat.unpack .binary64 b) = b := by
  have whole := packComponents_fields b
  have field : (unpackExponent b).toNat < 2 ^ 11 := (unpackExponent b).isLt
  have fraction : (unpackMantissa b).toNat < 2 ^ 52 := (unpackMantissa b).isLt
  have notTop : unpackExponent b ≠ -1#_ := fun h => finite (by rw [h]; rfl)
  rw [UnpackedFloat.unpack, if_neg notTop]
  by_cases zeroField : unpackExponent b = 0#_
  · rw [if_pos zeroField]
    split
    · rename_i zero
      rw [zeroField, zero] at whole
      exact whole
    · -- The significand of a subnormal double has no leading bit to drop.
      rename_i notZero
      have subnormal : (unpackMantissa b).toNat.log2 + 1 ≠ Format.binary64.mantissaBits := by
        have small := (Nat.log2_lt fun h => notZero (BitVec.eq_of_toNat_eq h)).mpr fraction
        change (unpackMantissa b).toNat.log2 + 1 ≠ 53
        omega
      rw [UnpackedFloat.pack, zeroField]
      simp only
      rw [if_neg (by decide), if_neg subnormal, BitVec.ofNat_toNat, BitVec.setWidth_eq, ← zeroField]
      exact whole
  · have nonzero : (unpackExponent b).toNat ≠ 0 := fun h => zeroField (BitVec.eq_of_toNat_eq h)
    have significand : (1#1 ++ unpackMantissa b).toNat = 2 ^ 52 + (unpackMantissa b).toNat := by
      rw [toNat_append]
      simp
    have exponent : (((unpackExponent b).toNat : Int) -
        (Format.binary64.exponentBias + Format.binary64.mantissaBitsWithoutImplicit) + Format.binary64.exponentBias +
        Format.binary64.mantissaBitsWithoutImplicit).toNat = (unpackExponent b).toNat := by omega
    have normal : (1#1 ++ unpackMantissa b).toNat.log2 + 1 = Format.binary64.mantissaBits := by
      rw [significand, (Nat.log2_eq_iff (k := 52) (by omega)).mpr ⟨by omega, by omega⟩]
      rfl
    rw [if_neg zeroField, UnpackedFloat.pack]
    simp only [exponent]
    have room : ¬ 2 ^ Format.binary64.exponentBits ≤ (unpackExponent b).toNat + 1 := by
      change ¬ 2048 ≤ (unpackExponent b).toNat + 1
      omega
    rw [if_neg room, if_pos normal, significand, BitVec.ofNat_toNat, BitVec.setWidth_eq]
    have dropped : BitVec.ofNat Format.binary64.mantissaBitsWithoutImplicit (2 ^ 52 + (unpackMantissa b).toNat) =
        unpackMantissa b := by
      apply BitVec.eq_of_toNat_eq
      rw [BitVec.toNat_ofNat]
      change (2 ^ 52 + (unpackMantissa b).toNat) % 2 ^ 52 = _
      omega
    rw [dropped]
    exact whole

lemma toBits_ofBits {u : UInt64} (finite : u.toNat / 2 ^ 52 % 2 ^ 11 ≠ 2047) : (Float.ofBits u).toBits = u := by
  have exponent : (@unpackExponent .binary64 u.toBitVec).toNat ≠ 2047 := by
    rw [toNat_unpackExponent]
    exact finite
  change UInt64.ofBitVec (UnpackedFloat.pack .binary64 (UnpackedFloat.unpack .binary64 u.toBitVec)) = u
  rw [pack_unpack exponent]

lemma decode_ofBits (negative : Bool) {field fraction : Nat} (finite : field < 2047) (bound : fraction < 2 ^ 52) :
    decode (Float.ofBits ((if negative then 2 ^ 63 else 0) + field * 2 ^ 52 + fraction).toUInt64) =
      if field = 0 then .finite negative fraction (-1074)
      else .finite negative (2 ^ 52 + fraction) ((field : Int) - 1075) := by
  have toNat : ((if negative then 2 ^ 63 else 0) + field * 2 ^ 52 + fraction).toUInt64.toNat =
      (if negative then 2 ^ 63 else 0) + field * 2 ^ 52 + fraction := by
    rw [Nat.toUInt64_eq, UInt64.toNat_ofNat']
    cases negative <;> simp <;> omega
  generalize hu : ((if negative then 2 ^ 63 else 0) + field * 2 ^ 52 + fraction).toUInt64 = u at toNat ⊢
  have bits : (Float.ofBits u).toBits = u := toBits_ofBits (by
    rw [toNat]
    cases negative <;> simp <;> omega)
  have sign : (u.toNat / twoTo 63 == 1) = negative := by
    change (u.toNat / 2 ^ 63 == 1) = negative
    rw [toNat]
    cases negative <;> simp <;> omega
  have exponent : u.toNat / twoTo 52 % twoTo 11 = field := by
    change u.toNat / 2 ^ 52 % 2 ^ 11 = field
    rw [toNat]
    cases negative <;> simp <;> omega
  have mantissa : u.toNat % twoTo 52 = fraction := by
    change u.toNat % 2 ^ 52 = fraction
    rw [toNat]
    cases negative <;> simp <;> omega
  have notTop : field ≠ 2047 := by omega
  simp only [decode, bits, sign, exponent, mantissa, if_neg notTop]
  rfl

/-! ### Rounding whole numbers -/

lemma roundDiv_one (n : Nat) : roundDiv n 1 = n := by
  simp [roundDiv, Nat.mod_one]

lemma roundDiv_bounds (n d : Nat) : n / d ≤ roundDiv n d ∧ roundDiv n d ≤ n / d + 1 := by
  unfold roundDiv
  simp only
  split
  · omega
  · split
    · omega
    · split <;> omega

lemma binaryExponent_one (positive : m ≠ 0) : binaryExponent m 1 = m.log2 := by
  have lower : ¬ m < 2 ^ m.log2 := Nat.not_lt.mpr (Nat.log2_self_le positive)
  have unit : Nat.log2 1 = 0 := by decide
  have natural : ¬ (m.log2 : Int) < 0 := by omega
  simp [binaryExponent, scaled, twoTo, unit, natural, lower]

lemma ofFraction_one (negative : Bool) (positive : m ≠ 0) : ofFraction negative m 1 =
      if m.log2 < 52 then assemble negative (m * 2 ^ (52 - m.log2)) (m.log2 - 52)
      else assemble negative (roundDiv m (2 ^ (m.log2 - 52))) (m.log2 - 52) := by
  have exponent : max ((m.log2 : Int) - 52) (-1074) = (m.log2 : Int) - 52 := by omega
  rw [ofFraction, if_neg positive, binaryExponent_one positive]
  simp only [exponent, scaled]
  split
  · rename_i below
    have size : ((m.log2 : Int) - 52).natAbs = 52 - m.log2 := by omega
    rw [if_pos (by omega), size, roundDiv_one]
    rfl
  · rename_i above
    have size : ((m.log2 : Int) - 52).natAbs = m.log2 - 52 := by omega
    rw [if_neg (by omega), size, one_mul]
    rfl

lemma decode_assemble (negative : Bool) (lower : 2 ^ 52 ≤ q) (upper : q < 2 ^ 53)
    (low : -1074 ≤ e) (high : e < 972) : decode (assemble negative q e) = .finite negative q e := by
  have full : ¬ q = 2 ^ 53 := Nat.ne_of_lt upper
  have normal : ¬ q < 2 ^ 52 := Nat.not_lt.mpr lower
  have room : ¬ e + 1075 ≥ 2047 := by omega
  have fields := @decode_ofBits negative (e + 1075).toNat (q - 2 ^ 52) (by omega) (by omega)
  have exponent : (((e + 1075).toNat : Int) - 1075) = e := by omega
  have nonzero : ¬ (e + 1075).toNat = 0 := by omega
  rw [if_neg nonzero, Nat.add_sub_cancel' lower, exponent] at fields
  simp only [assemble, twoTo_eq, full, normal, room, if_false]
  exact fields

lemma assemble_carry (negative : Bool) (e : Int) : assemble negative (2 ^ 53) e = assemble negative (2 ^ 52) (e + 1) := by
  have full : (2 ^ 53 : Nat) = twoTo 53 := rfl
  have other : ¬ (2 ^ 52 : Nat) = twoTo 53 := by decide
  simp only [assemble, if_pos full, if_neg other]
  rfl

lemma decode_assemble_large (negative : Bool) (lower : 2 ^ 52 ≤ q) (upper : q < 2 ^ 53)
    (high : 972 ≤ e) : decode (assemble negative q e) = .infinite negative := by
  have full : ¬ q = 2 ^ 53 := Nat.ne_of_lt upper
  have normal : ¬ q < 2 ^ 52 := Nat.not_lt.mpr lower
  have room : e + 1075 ≥ 2047 := by omega
  simp only [assemble, twoTo_eq, full, normal, room, if_true, if_false]
  cases negative <;> decide +kernel

lemma two_pow_le_shifted (positive : m ≠ 0) (small : m < 2 ^ 53) : 2 ^ 52 ≤ m * 2 ^ (52 - m.log2) := by
  have bits : m.log2 < 53 := (Nat.log2_lt positive).mpr small
  calc 2 ^ 52 = 2 ^ m.log2 * 2 ^ (52 - m.log2) := by rw [← Nat.pow_add, Nat.add_sub_cancel' (by omega)]
    _ ≤ m * 2 ^ (52 - m.log2) := Nat.mul_le_mul_right _ (Nat.log2_self_le positive)

lemma decode_ofFraction_small (negative : Bool) (positive : m ≠ 0) (small : m < 2 ^ 53) :
    decode (ofFraction negative m 1) = .finite negative (m * 2 ^ (52 - m.log2)) (m.log2 - 52) := by
  have upper := Nat.lt_log2_self (n := m)
  have bits : m.log2 < 53 := (Nat.log2_lt positive).mpr small
  have scale : 2 ^ m.log2 * 2 ^ (52 - m.log2) = 2 ^ 52 := by
    rw [← Nat.pow_add, Nat.add_sub_cancel' (by omega)]
  have full := two_pow_le_shifted positive small
  have fits : m * 2 ^ (52 - m.log2) < 2 ^ 53 := by
    calc m * 2 ^ (52 - m.log2) < 2 ^ (m.log2 + 1) * 2 ^ (52 - m.log2) :=
          Nat.mul_lt_mul_of_pos_right upper (Nat.two_pow_pos _)
      _ = 2 ^ 53 := by rw [Nat.pow_succ, Nat.mul_right_comm, scale, ← Nat.pow_succ]
  rw [ofFraction_one negative positive]
  split
  · exact decode_assemble negative full fits (by omega) (by omega)
  · have top : m.log2 = 52 := by omega
    rw [top, Nat.sub_self, Nat.pow_zero, Nat.mul_one] at full fits ⊢
    rw [roundDiv_one]
    exact decode_assemble negative full fits (by omega) (by omega)

lemma decode_ofFraction_large (negative : Bool) (large : 2 ^ 53 ≤ m) :
    decode (ofFraction negative m 1) = .infinite negative ∨
      ∃ q e : Nat, 2 ^ 52 ≤ q ∧ 0 < e ∧ decode (ofFraction negative m 1) = .finite negative q e := by
  have positive : m ≠ 0 := by omega
  have bits : 53 ≤ m.log2 := (Nat.le_log2 positive).mpr large
  have split : m.log2 = 52 + (m.log2 - 52) := by omega
  have floor : 2 ^ 52 ≤ m / 2 ^ (m.log2 - 52) := by
    rw [Nat.le_div_iff_mul_le (Nat.two_pow_pos _), ← Nat.pow_add, ← split]
    exact Nat.log2_self_le positive
  have ceiling : m / 2 ^ (m.log2 - 52) < 2 ^ 53 := by
    rw [Nat.div_lt_iff_lt_mul (Nat.two_pow_pos _), ← Nat.pow_add]
    have : 53 + (m.log2 - 52) = m.log2 + 1 := by omega
    rw [this]
    exact Nat.lt_log2_self
  obtain ⟨atLeast, atMost⟩ := roundDiv_bounds m (2 ^ (m.log2 - 52))
  rw [ofFraction_one negative positive, if_neg (by omega)]
  generalize roundDiv m (2 ^ (m.log2 - 52)) = q at atLeast atMost ⊢
  -- Rounding up may need one bit more.
  obtain ⟨q', e, lower, upper, above, same⟩ : ∃ (q' e : Nat), 2 ^ 52 ≤ q' ∧ q' < 2 ^ 53 ∧ 0 < e ∧
      assemble negative q (m.log2 - 52) = assemble negative q' e := by
    rcases Nat.lt_or_ge q (2 ^ 53) with short | long
    · refine ⟨q, m.log2 - 52, by omega, short, by omega, ?_⟩
      congr 1
      omega
    · obtain rfl : q = 2 ^ 53 := by omega
      refine ⟨2 ^ 52, m.log2 - 51, by omega, by omega, by omega, ?_⟩
      rw [assemble_carry]
      congr 1
      omega
  rw [same]
  rcases Int.lt_or_le (e : Int) 972 with room | none
  · exact .inr ⟨q', e, lower, above, decode_assemble negative lower upper (by omega) room⟩
  · exact .inl (decode_assemble_large negative lower upper none)

/-! ### Back to whole numbers -/

lemma truncate?_of_decode {x : Float} {negative : Bool} {k : Nat}
    (decoded : decode x = .finite negative m e) (value : (magnitude m e).1 / (magnitude m e).2 = k) :
    truncate? x = some (if negative then -(k : Int) else k) := by
  rw [truncate?, decoded]
  simp only [value]

lemma truncate?_ofInt (small : n.natAbs < 2 ^ 53) : truncate? (ofInt n) = some n := by
  rcases eq_or_ne n.natAbs 0 with zero | positive
  · obtain rfl := Int.natAbs_eq_zero.mp zero
    decide +kernel
  · have bits : n.natAbs.log2 < 53 := (Nat.log2_lt positive).mpr small
    have value : (magnitude (n.natAbs * 2 ^ (52 - n.natAbs.log2)) (n.natAbs.log2 - 52)).1 /
        (magnitude (n.natAbs * 2 ^ (52 - n.natAbs.log2)) (n.natAbs.log2 - 52)).2 = n.natAbs := by
      rw [magnitude]
      split
      · have size : ((n.natAbs.log2 : Int) - 52).natAbs = 52 - n.natAbs.log2 := by omega
        simp only [size, twoTo_eq]
        exact Nat.mul_div_cancel _ (Nat.two_pow_pos _)
      · have top : n.natAbs.log2 = 52 := by omega
        simp [top, twoTo_eq]
    rw [ofInt, truncate?_of_decode (decode_ofFraction_small _ positive small) value]
    by_cases negative : n < 0
    · simp only [negative, decide_true, if_true]
      congr 1
      omega
    · simp only [negative, decide_false, Bool.false_eq_true, if_false]
      congr 1
      omega

lemma truncate?_ofInt_large (large : 2 ^ 53 ≤ n.natAbs) (finite : isFinite (ofInt n) = true) :
    ∃ k : Nat, 2 ^ 53 ≤ k ∧ truncate? (ofInt n) = some (if n < 0 then -(k : Int) else k) := by
  rcases decode_ofFraction_large (n < 0) large with infinite | ⟨q, e, full, above, decoded⟩
  · rw [isFinite, ofInt, infinite] at finite
    simp at finite
  · have value : (magnitude q e).1 / (magnitude q e).2 = q * 2 ^ e := by
      rw [magnitude, if_neg (by omega)]
      simp [twoTo_eq]
    refine ⟨q * 2 ^ e, ?_, ?_⟩
    · calc 2 ^ 53 = 2 ^ 52 * 2 ^ 1 := by norm_num
        _ ≤ q * 2 ^ e := Nat.mul_le_mul full (Nat.pow_le_pow_right (by omega) above)
    · rw [ofInt, truncate?_of_decode decoded value]
      simp

lemma le_of_realOfInt {k : Int} {x : Float} (real : Value.realOfInt n = .ok x) (small : k.natAbs < 2 ^ 53) :
    ∃ m, truncate? x = some m ∧ (k ≤ m ↔ k ≤ n) := by
  unfold Value.realOfInt at real
  simp only at real
  split at real
  · rename_i finite
    obtain rfl := Except.ok.inj real
    rcases Nat.lt_or_ge n.natAbs (2 ^ 53) with short | long
    · exact ⟨n, truncate?_ofInt short, Iff.rfl⟩
    · obtain ⟨m, bound, truncated⟩ := truncate?_ofInt_large long finite
      refine ⟨_, truncated, ?_⟩
      split <;> omega
  · simp at real

/-! ### Quotients -/

lemma isFinite_assemble (negative : Bool) (upper : q ≤ 2 ^ 53) (low : -1074 ≤ e) (high : e < 971) :
    isFinite (assemble negative q e) = true := by
  rcases Nat.lt_or_ge q (2 ^ 52) with small | full
  · have fields := @decode_ofBits negative 0 q (by omega) small
    have other : ¬ q = 2 ^ 53 := by omega
    rw [Nat.zero_mul, Nat.add_zero, if_pos rfl] at fields
    rw [isFinite, assemble]
    simp only [twoTo_eq, other, small, if_true, if_false]
    rw [fields]
  · rcases Nat.lt_or_ge q (2 ^ 53) with short | long
    · rw [isFinite, decode_assemble negative full short low (by omega)]
    · obtain rfl : q = 2 ^ 53 := by omega
      rw [assemble_carry, isFinite, decode_assemble negative (by omega) (by omega) (by omega) (by omega)]

lemma scaled_lt_iff (k : Nat) : (scaled num den e).1 < k * (scaled num den e).2 ↔ (num : ℚ) < k * 2 ^ e * den := by
  rw [scaled]
  split
  · rename_i below
    have power : (2 : ℚ) ^ e = ((2 : ℚ) ^ e.natAbs)⁻¹ := by
      rw [← zpow_natCast, ← zpow_neg]
      congr 1
      omega
    have positive : (0 : ℚ) < 2 ^ e.natAbs := by positivity
    rw [power, mul_right_comm, ← div_eq_mul_inv, lt_div_iff₀ positive]
    simp only [twoTo_eq]
    norm_cast
  · rename_i above
    have power : (2 : ℚ) ^ e = (2 : ℚ) ^ e.natAbs := by
      rw [← zpow_natCast]
      congr 1
      omega
    rw [power]
    simp only [twoTo_eq]
    norm_cast
    rw [mul_assoc, mul_comm den]

lemma lt_binaryExponent (nonzero : den ≠ 0) : (num : ℚ) < 2 ^ (binaryExponent num den + 1) * den := by
  have guessed : (num : ℚ) < 2 ^ ((num.log2 : Int) - den.log2 + 1) * den := by
    have above : (num : ℚ) < 2 ^ ((num.log2 : Int) + 1) := by exact_mod_cast Nat.lt_log2_self (n := num)
    have below : (2 : ℚ) ^ (den.log2 : Int) ≤ den := by exact_mod_cast Nat.log2_self_le nonzero
    have split : (2 : ℚ) ^ ((num.log2 : Int) + 1) = 2 ^ ((num.log2 : Int) - den.log2 + 1) * 2 ^ (den.log2 : Int) := by
      rw [← zpow_add₀ two_ne_zero]
      congr 1
      omega
    calc (num : ℚ) < 2 ^ ((num.log2 : Int) + 1) := above
      _ = 2 ^ ((num.log2 : Int) - den.log2 + 1) * 2 ^ (den.log2 : Int) := split
      _ ≤ _ := mul_le_mul_of_nonneg_left below (by positivity)
  rw [binaryExponent]
  split
  · rename_i short
    have short := (scaled_lt_iff 1).mp (by rwa [one_mul])
    rwa [Nat.cast_one, one_mul, ← sub_add_cancel ((num.log2 : Int) - den.log2) 1] at short
  · exact guessed

lemma binaryExponent_le (small : num < 2 ^ 53) : binaryExponent num den ≤ 52 := by
  have bits : num.log2 ≤ 52 := by
    rcases eq_or_ne num 0 with rfl | positive
    · decide
    · have := (Nat.log2_lt positive).mpr small
      omega
  rw [binaryExponent]
  split
  · omega
  · omega

lemma isFinite_ofFraction (negative : Bool) (small : num < 2 ^ 53) (nonzero : den ≠ 0) :
    isFinite (ofFraction negative num den) = true := by
  rw [ofFraction]
  split
  · exact isFinite_assemble negative (by omega) (by omega) (by omega)
  dsimp only
  generalize exponent : max (binaryExponent num den - 52) (-1074) = e
  have high : binaryExponent num den ≤ 52 := binaryExponent_le small
  have bound : (scaled num den e).1 < 2 ^ 53 * (scaled num den e).2 := by
    refine (scaled_lt_iff _).mpr ?_
    have wide : (2 : ℚ) ^ (binaryExponent num den + 1) ≤ 2 ^ (53 + e) := zpow_le_zpow_right₀ one_le_two (by omega)
    calc (num : ℚ) < 2 ^ (binaryExponent num den + 1) * den := lt_binaryExponent nonzero
      _ ≤ 2 ^ (53 + e) * den := mul_le_mul_of_nonneg_right wide (Nat.cast_nonneg den)
      _ = _ := by
        rw [zpow_add₀ two_ne_zero]
        norm_cast
  have room : (scaled num den e).1 / (scaled num den e).2 < 2 ^ 53 := Nat.div_lt_of_lt_mul (by rwa [mul_comm])
  have rounded := (roundDiv_bounds (scaled num den e).1 (scaled num den e).2).2
  exact isFinite_assemble negative (by omega) (by omega) (by omega)

end EprBench.Decimal
