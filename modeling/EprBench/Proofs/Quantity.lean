import Mathlib
import EprBench.Ladder
import EprBench.Waveform.Scalar

/-! Exact numbers. Fields, voltages and samples are computed here without rounding errors: what is rounded is rounded on purpose. -/
namespace EprBench.Quantity

/-- The nearest whole number, an exact half going to the even one. -/
def nearestWhole (x : ℚ) : ℤ :=
  let n := ⌊x⌋
  if x - n < 1 / 2 then n else if 1 / 2 < x - n then n + 1 else if n % 2 = 0 then n else n + 1

def exactText (places : Nat) (x : ℚ) : String :=
  String.ofList ((if x < 0 then ['-'] else []) ++ Decimal.fixedDigits x.num.natAbs x.den places)

instance exact : Quantity ℚ where
  ofInt n := n
  decimal m e := m / 10 ^ e
  lt a b := decide (a < b)
  le a b := decide (a ≤ b)
  abs x := |x|
  nearest x := .ok (nearestWhole x)
  floor x := .ok ⌊x⌋
  ceiling x := .ok ⌈x⌉
  rounded n x := nearestWhole (x * 10 ^ n) / 10 ^ n
  text := exactText 6
  places := exactText 3

@[simp] lemma ofInt_eq (n : ℤ) : (ofInt n : ℚ) = n := rfl

lemma decimal_eq (m e : ℕ) : (decimal m e : ℚ) = m / 10 ^ e := rfl

@[simp] lemma zero_eq : (zero : ℚ) = 0 := Int.cast_zero

@[simp] lemma half_eq : (half : ℚ) = 1 / 2 := by
  show (5 : ℚ) / 10 ^ 1 = 1 / 2
  norm_num

@[simp] lemma lt_eq (a b : ℚ) : lt a b = decide (a < b) := rfl

@[simp] lemma le_eq (a b : ℚ) : le a b = decide (a ≤ b) := rfl

@[simp] lemma nearest_eq (x : ℚ) : nearest x = .ok (nearestWhole x) := rfl

lemma truncated_of_nonneg {x : ℚ} (forward : 0 ≤ x) : truncated x = .ok ⌊x⌋ := by
  rw [truncated, lt_eq, zero_eq, decide_eq_false (not_lt.mpr forward), if_neg (by decide)]
  rfl

lemma quotient_of_pos {y : ℚ} (positive : 0 < y) (x : ℚ) : quotient x y = .ok (x / y) := by
  have away : isZero y = false := by simp [isZero, positive]
  rw [quotient, if_neg (by simp [away])]

/-! ### Rounding -/

lemma floor_le_nearestWhole (x : ℚ) : ⌊x⌋ ≤ nearestWhole x := by
  rw [nearestWhole]
  split_ifs <;> omega

lemma nearestWhole_le_ceil (x : ℚ) : nearestWhole x ≤ ⌈x⌉ := by
  have floor := Int.floor_le x
  have below : ⌊x⌋ ≤ ⌈x⌉ := Int.floor_le_ceil x
  -- Unless the number is whole already, the next whole one is its ceiling.
  have above (off : ¬ x - ⌊x⌋ < 1 / 2) : ⌊x⌋ + 1 ≤ ⌈x⌉ := Int.add_one_le_iff.mpr (Int.lt_ceil.mpr (by linarith))
  rw [nearestWhole]
  split_ifs with h
  · exact below
  · exact above h
  · exact below
  · exact above h

lemma le_nearestWhole {n : ℤ} {x : ℚ} (h : n ≤ x) : n ≤ nearestWhole x :=
  (Int.le_floor.mpr h).trans (floor_le_nearestWhole x)

lemma nearestWhole_le {n : ℤ} {x : ℚ} (h : x ≤ n) : nearestWhole x ≤ n :=
  (nearestWhole_le_ceil x).trans (Int.ceil_le.mpr h)

@[simp] lemma nearestWhole_intCast (n : ℤ) : nearestWhole n = n :=
  le_antisymm (nearestWhole_le le_rfl) (le_nearestWhole le_rfl)

lemma nearestWhole_add_half (n : ℤ) : nearestWhole (n + 1 / 2) = if n % 2 = 0 then n else n + 1 := by
  have floor : ⌊(n : ℚ) + 1 / 2⌋ = n := by
    rw [Int.floor_intCast_add]
    norm_num
  have middle : (n : ℚ) + 1 / 2 - n = 1 / 2 := by ring
  simp only [nearestWhole, floor, middle, lt_irrefl, if_false]

lemma nearestWhole_mono {x y : ℚ} (le : x ≤ y) : nearestWhole x ≤ nearestWhole y := by
  have floors : ⌊x⌋ ≤ ⌊y⌋ := Int.floor_le_floor le
  have above : nearestWhole x ≤ ⌊x⌋ + 1 := (nearestWhole_le_ceil x).trans (Int.ceil_le_floor_add_one x)
  have below : ⌊y⌋ ≤ nearestWhole y := floor_le_nearestWhole y
  rcases floors.lt_or_eq with less | same
  · omega
  · rw [nearestWhole, nearestWhole, same]
    split_ifs <;> first | omega | (exfalso; linarith)

lemma abs_sub_nearestWhole_le (x : ℚ) : |x - nearestWhole x| ≤ 1 / 2 := by
  have low := Int.floor_le x
  have high := Int.lt_floor_add_one x
  rw [nearestWhole, abs_le]
  split_ifs
  all_goals
    push_cast
    constructor
    all_goals linarith

lemma nearestWhole_eq {n : ℤ} {x : ℚ} (near : |x - n| < 1 / 2) : nearestWhole x = n := by
  have rounded := abs_le.mp (abs_sub_nearestWhole_le x)
  obtain ⟨above, below⟩ := abs_lt.mp near
  have low : ((n - 1 : ℤ) : ℚ) < nearestWhole x := by
    push_cast
    linarith
  have high : (nearestWhole x : ℚ) < ((n + 1 : ℤ) : ℚ) := by
    push_cast
    linarith
  have low : n - 1 < nearestWhole x := by exact_mod_cast low
  have high : nearestWhole x < n + 1 := by exact_mod_cast high
  omega

lemma abs_sub_nearestWhole_le_abs_sub (x : ℚ) (n : ℤ) : |x - nearestWhole x| ≤ |x - n| := by
  by_contra nearer
  have near : |x - n| < 1 / 2 := (not_le.mp nearer).trans_le (abs_sub_nearestWhole_le x)
  rw [nearestWhole_eq near] at nearer
  exact nearer le_rfl

end EprBench.Quantity

namespace EprBench

open List

/-! ### Whole steps -/

lemma roundUp_spec (step : ℤ) (positive : 0 < step) (n : ℤ) :
    step ∣ roundUp n step ∧ n ≤ roundUp n step ∧ roundUp n step < n + step := by
  have whole := Int.mul_fdiv_add_fmod n step
  have low := Int.fmod_nonneg_of_pos n positive
  have high := Int.fmod_lt_of_pos n positive
  refine ⟨dvd_mul_right _ _, ?_⟩
  rw [roundUp, mul_add]
  split
  · constructor
    · linarith
    · linarith
  · constructor
    · linarith
    · linarith

/-! ### The nearest of some values -/

lemma nearestOf_mem (x : Int) {vs : List Int} (some : vs ≠ []) : nearestOf x vs ∈ vs := by
  obtain ⟨v, rest, rfl⟩ := exists_cons_of_ne_nil some
  refine List.foldlRecOn rest (motive := fun best => best ∈ v :: rest) _ mem_cons_self ?_
  intro best member w inside
  split
  · exact mem_cons_of_mem v inside
  · exact member

lemma natAbs_nearestOf_le (x : ℤ) {v : ℤ} {vs : List ℤ} (member : v ∈ vs) :
    (nearestOf x vs - x).natAbs ≤ (v - x).natAbs := by
  cases vs with
  | nil => simp at member
  | cons best rest =>
    rw [nearestOf]
    induction rest generalizing best v with
    | nil => rw [mem_singleton.mp member, foldl_nil]
    | cons w rest ih =>
      rw [foldl_cons]
      -- The better one of the first two values stands for both.
      rcases mem_cons.mp member with rfl | member
      · refine (ih _ mem_cons_self).trans ?_
        split <;> omega
      rcases mem_cons.mp member with rfl | member
      · refine (ih _ mem_cons_self).trans ?_
        split <;> omega
      · exact ih _ (mem_cons_of_mem _ member)

lemma nearestOf_eq_iff (x : Int) {vs : List Int} (some : vs ≠ []) : nearestOf x vs = x ↔ x ∈ vs := by
  constructor
  · intro same
    exact same ▸ nearestOf_mem x some
  · intro member
    have := natAbs_nearestOf_le x member
    omega

end EprBench

namespace EprBench.Waveform

/-! ### Samples -/

open Scalar

/-- A number without its fraction. -/
noncomputable def cut (x : ℝ) : ℤ := if 0 ≤ x then ⌊x⌋ else ⌈x⌉

noncomputable instance exactScalar : Scalar ℝ where
  toAdd := inferInstance
  toSub := inferInstance
  toMul := inferInstance
  toDiv := inferInstance
  toNeg := inferInstance
  ofInt n := n
  half := 1 / 2
  pi := Real.pi
  sin := Real.sin
  exp := Real.exp
  log := Real.log
  cosh := Real.cosh
  tanh := Real.tanh
  abs x := |x|
  sqrt := Real.sqrt
  arctan2 y x := Complex.arg ⟨x, y⟩
  power x y := x ^ y
  isZero x := decide (x = 0)
  isPositive x := decide (0 < x)
  truncate x := .ok (cut x)
  ceiling x := .ok ⌈x⌉

@[simp] lemma ofInt_eq (n : ℤ) : (Scalar.ofInt n : ℝ) = n := rfl

@[simp] lemma truncate_eq (x : ℝ) : truncate x = .ok (cut x) := rfl

@[simp] lemma sin_eq (x : ℝ) : sin x = Real.sin x := rfl

@[simp] lemma exp_eq (x : ℝ) : exp x = Real.exp x := rfl

@[simp] lemma log_eq (x : ℝ) : log x = Real.log x := rfl

@[simp] lemma cosh_eq (x : ℝ) : cosh x = Real.cosh x := rfl

@[simp] lemma abs_eq (x : ℝ) : Scalar.abs x = |x| := rfl

@[simp] lemma power_eq (x y : ℝ) : power x y = x ^ y := rfl

@[simp] lemma pi_eq : (pi : ℝ) = Real.pi := rfl

@[simp] lemma isZero_eq (x : ℝ) : isZero x = decide (x = 0) := rfl

@[simp] lemma isPositive_eq (x : ℝ) : isPositive x = decide (0 < x) := rfl

@[simp] lemma one_eq : (one : ℝ) = 1 := Int.cast_one

@[simp] lemma two_eq : (two : ℝ) = 2 := by
  rw [two, ofInt_eq]
  norm_num

@[simp] lemma fullTurn_eq : (fullTurn : ℝ) = 2 * Real.pi := rfl

@[simp] lemma cut_intCast (n : ℤ) : cut n = n := by
  rw [cut, Int.floor_intCast, Int.ceil_intCast, ite_self]

lemma abs_cut_le {x : ℝ} {n : ℤ} (bound : |x| ≤ n) : |cut x| ≤ n := by
  obtain ⟨low, high⟩ := abs_le.mp bound
  rw [cut, abs_le]
  split
  · exact ⟨Int.le_floor.mpr (by exact_mod_cast low), Int.floor_le_iff.mpr (by linarith)⟩
  · refine ⟨Int.le_ceil_iff.mpr ?_, Int.ceil_le.mpr high⟩
    push_cast
    linarith

@[simp] lemma cut_zero : cut 0 = 0 := by simpa using cut_intCast 0

@[simp] lemma cut_ofNat (n : ℕ) [n.AtLeastTwo] : cut ofNat(n) = ofNat(n) := cut_intCast _

end EprBench.Waveform
