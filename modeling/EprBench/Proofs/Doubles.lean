import EprBench.Proofs.Decimal
import EprBench.Proofs.Numerals

/-! The order of doubles. Whole numbers are compared as doubles just as they are compared as whole numbers, as long as one of
them has up to 53 bits. -/
namespace EprBench.Decimal

open Float.Model
open Float.Model.UnpackedFloat

variable {e : ℤ} {k m n q : ℕ}

/-! ### Unpacking -/

lemma lt_iff_compare (x y : Float) : x < y ↔ x.toModel.unpack.compare y.toModel.unpack = some .lt := by
  change decide ((x.toModel.unpack.compare y.toModel.unpack == some .lt) = true) = true ↔ _
  rw [decide_eq_true_iff, beq_iff_eq]

lemma sign_of_small {b : BitVec Format.binary64.numBits} (small : b.toNat / 2 ^ 63 ≠ 1) :
    Sign.ofBitVec (unpackSign b) = .positive := by
  have bound : b.toNat < 2 ^ 64 := b.isLt
  have zero : unpackSign b = 0#1 := by
    apply BitVec.eq_of_toNat_eq
    rw [toNat_unpackSign]
    change _ = 0
    omega
  rw [zero]
  rfl

lemma unpack_of_full {x : Float} (decoded : decode x = .finite false q e) (full : 2 ^ 52 ≤ q) (positive : 0 < q) :
    x.toModel.unpack = .finite .positive q e positive := by
  change UnpackedFloat.unpack .binary64 x.toBits.toBitVec = .finite .positive q e positive
  have field := toNat_unpackExponent x.toBits.toBitVec
  have fraction := toNat_unpackMantissa x.toBits.toBitVec
  dsimp only [decode] at decoded
  split at decoded
  · split at decoded <;> simp at decoded
  rename_i top
  split at decoded
  · rw [Decoded.finite.injEq] at decoded
    have : x.toBits.toNat % twoTo 52 < 2 ^ 52 := Nat.mod_lt x.toBits.toNat (show 0 < 2 ^ 52 by decide)
    omega
  rename_i bottom
  rw [Decoded.finite.injEq, beq_eq_false_iff_ne] at decoded
  obtain ⟨small, rfl, rfl⟩ := decoded
  have sign := sign_of_small (b := x.toBits.toBitVec) small
  have notTop : @unpackExponent .binary64 x.toBits.toBitVec ≠ -1#_ := by
    intro same
    rw [same] at field
    exact top field.symm
  have notBottom : @unpackExponent .binary64 x.toBits.toBitVec ≠ 0#_ := by
    intro same
    rw [same] at field
    exact bottom field.symm
  have significand : (1#1 ++ @unpackMantissa .binary64 x.toBits.toBitVec).toNat = 2 ^ 52 + x.toBits.toNat % 2 ^ 52 := by
    rw [toNat_append, fraction]
    simp
  simp only [UnpackedFloat.unpack, if_neg notTop, if_neg notBottom, sign, significand, field]
  rfl

lemma unpack_of_infinite {x : Float} (decoded : decode x = .infinite false) : x.toModel.unpack = .infinity .positive := by
  change UnpackedFloat.unpack .binary64 x.toBits.toBitVec = .infinity .positive
  have field := toNat_unpackExponent x.toBits.toBitVec
  have fraction := toNat_unpackMantissa x.toBits.toBitVec
  dsimp only [decode] at decoded
  split at decoded
  swap
  · split at decoded <;> simp at decoded
  rename_i top
  split at decoded
  swap
  · simp at decoded
  rename_i zero
  rw [Decoded.infinite.injEq, beq_eq_false_iff_ne] at decoded
  have sign := sign_of_small (b := x.toBits.toBitVec) decoded
  have exponent : @unpackExponent .binary64 x.toBits.toBitVec = -1#_ := BitVec.eq_of_toNat_eq (field.trans top)
  have mantissa : @unpackMantissa .binary64 x.toBits.toBitVec = 0#_ := BitVec.eq_of_toNat_eq (fraction.trans zero)
  simp only [UnpackedFloat.unpack, if_pos exponent, if_pos mantissa, sign]

/-! ### Whole numbers -/

lemma compare_full {q' : ℕ} {e' : ℤ} (positive : 0 < q) (positive' : 0 < q') :
    UnpackedFloat.compare (.finite .positive q e positive) (.finite .positive q' e' positive') = some .lt ↔
      e < e' ∨ e = e' ∧ q < q' := by
  rw [UnpackedFloat.compare, Option.some.injEq, Ordering.then_eq_lt, compare_lt_iff_lt, compare_eq_iff_eq, compare_lt_iff_lt]

lemma lt_of_log2_lt (positive : m ≠ 0) (less : k.log2 < m.log2) : k < m :=
  calc k < 2 ^ (k.log2 + 1) := Nat.lt_log2_self
    _ ≤ 2 ^ m.log2 := Nat.pow_le_pow_right (by decide) less
    _ ≤ m := Nat.log2_self_le positive

lemma ofFraction_lt_iff (nonzero : k ≠ 0) (small : k < 2 ^ 53) (positive : m ≠ 0) :
    ofFraction false k 1 < ofFraction false m 1 ↔ k < m := by
  have bits : k.log2 < 53 := (Nat.log2_lt nonzero).mpr small
  have full := two_pow_le_shifted nonzero small
  rw [lt_iff_compare, unpack_of_full (decode_ofFraction_small false nonzero small) full (by omega)]
  rcases Nat.lt_or_ge m (2 ^ 53) with short | long
  · have full' := two_pow_le_shifted positive short
    rw [unpack_of_full (decode_ofFraction_small false positive short) full' (by omega), compare_full]
    -- The number with more bits is larger; with as many bits, both have been shifted alike.
    rcases lt_trichotomy k.log2 m.log2 with less | same | more
    · exact iff_of_true (.inl (by omega)) (lt_of_log2_lt positive less)
    · rw [same, Nat.mul_lt_mul_right (Nat.two_pow_pos _)]
      omega
    · have := lt_of_log2_lt nonzero more
      omega
  · refine iff_of_true ?_ (by omega)
    rcases decode_ofFraction_large false long with infinite | ⟨q', e', full', above, made⟩
    · rw [unpack_of_infinite infinite]
      rfl
    · rw [unpack_of_full made full' (by omega), compare_full]
      omega

lemma parseFloat?_natText (n : ℕ) : parseFloat? (natText n) = some (ofDecimal false n 0) := by
  obtain ⟨ds, digits, nonempty, value⟩ := takeDigits_natText n
  have plain : (natText n).toList.map plainChar = (natText n).toList :=
    (List.map_congr_left fun c member => plainChar_of_isDigit (digit_of_mem_natText member)).trans (List.map_id _)
  have dark : ∀ c ∈ (natText n).toList, isMargin c = false :=
    fun c member => isMargin_of_isDigit (digit_of_mem_natText member)
  have sign : takeSign (natText n).toList = (false, (natText n).toList) := takeSign_of_isDigit fun c => digit_of_mem_natText
  have taken : takeNumber (natText n).toList = some (ofDecimal false n 0, []) := by
    rw [takeNumber, takeNumeral_of_takeDigits (by rw [sign]; exact digits) nonempty, sign, value]
    rfl
  rw [parseFloat?, parseFloatChars?, plain, dropMargins_of_forall dark, taken]

lemma lt_parseFloat?_natText (nonzero : k ≠ 0) (small : k < 2 ^ 53) (positive : n ≠ 0) :
    ∃ x, parseFloat? (natText n) = some x ∧ (ofFraction false k 1 < x ↔ k < n) := by
  refine ⟨_, parseFloat?_natText n, ?_⟩
  rw [ofDecimal, if_neg positive]
  dsimp only
  split
  · rename_i long
    have large : 10 ^ 16 ≤ n := by
      rw [← Nat.not_lt, ← Nat.length_toDigits_le_iff (by decide) (by decide)]
      omega
    have room : 2 ^ 53 ≤ twoTo 1100 := by decide +kernel
    rw [ofFraction_lt_iff nonzero small (by omega)]
    omega
  · rw [if_neg (by omega), if_neg (by decide), ofFraction_lt_iff nonzero small (by simpa [tenTo] using positive)]
    simp [tenTo]

end EprBench.Decimal
