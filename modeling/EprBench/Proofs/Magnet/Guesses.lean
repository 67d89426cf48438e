import EprBench.Proofs.Magnet.Sessions

/-! Sweep widths that are guessed for the way from a centre field to another field. -/
namespace EprBench.Magnet

open Quantity Outcome
open scoped Nat

/-- A sweep address comes within half a step of the field. -/
def Reaches (centre step field : ℚ) : Prop :=
  ∃ n : ℤ, 0 ≤ n ∧ n ≤ 4095 ∧ |centre + (n - 2048) * step - field| ≤ step / 2

/-- The width whose step is the way to go, brought down by a whole factor to what can be set. -/
def firstWidth (diff : ℚ) : ℚ := 4095 * diff / ⌈4095 * diff / 16000⌉

/-! ### Dividing -/

/-- Passes divide the width by 1, 2, 3, … in turn, so after `m` of them the `m`-th factorial part is left. They end at the first
part of which the next one fits, as long as there are enough of them. -/
lemma narrow_eq {fits : ℚ → Bool} {w : ℚ} {n j l : ℕ} (enough : l < n) (fit : fits (w / (j + l + 1)! / 2) = true) :
    ∃ m, j ≤ m ∧ m ≤ j + l ∧ narrow fits n (j + 1) (w / j !) = w / m ! ∧ fits (w / (m + 1)! / 2) = true ∧
      ∀ k, j < k → k ≤ m → fits (w / k ! / 2) = false := by
  induction n generalizing j l with
  | zero => exact absurd enough (Nat.not_lt_zero l)
  | succ n ih =>
    have divided : w / j ! / ofInt ((j + 1 : ℕ) : ℤ) = w / (j + 1)! := by
      rw [ofInt_eq, Nat.factorial_succ, div_div]
      push_cast
      rw [mul_comm]
    have next : half * (w / j !) / ofInt ((j + 1 : ℕ) : ℤ) = w / (j + 1)! / 2 := by
      rw [← divided, half_eq]
      ring
    rw [narrow, next, divided]
    split
    · rename_i here
      exact ⟨j, le_rfl, by omega, rfl, here, by omega⟩
    · rename_i here
      cases l with
      | zero => exact absurd fit here
      | succ l =>
        have later : fits (w / (j + 1 + l + 1)! / 2) = true := by
          rwa [show j + 1 + l + 1 = j + (l + 1) + 1 by omega]
        obtain ⟨m, above, below, same, ends, none⟩ := ih (by omega) later
        refine ⟨m, by omega, by omega, same, ends, fun k first last => ?_⟩
        rcases Nat.eq_or_lt_of_le first with rfl | past
        · simpa using here
        · exact none k past last

variable {centre diff width step : ℚ}

def fitsBelow (centre half : ℚ) : Bool := !lt maxField (centre + half)

def fitsAbove (centre half : ℚ) : Bool := !lt (centre - half) minField

lemma fitsBelow_iff {half : ℚ} : fitsBelow centre half = true ↔ centre + half ≤ 23000 := by simp [fitsBelow]

lemma fitsAbove_iff {half : ℚ} : fitsAbove centre half = true ↔ -50 ≤ centre - half := by simp [fitsAbove]

lemma fits_iff_halves : Fits centre width ↔ fitsBelow centre (width / 2) = true ∧ fitsAbove centre (width / 2) = true := by
  rw [fitsBelow_iff, fitsAbove_iff, Fits, and_comm]

def narrowed (centre width : ℚ) : ℚ := narrow (fitsAbove centre) maxDivisions 1 (narrow (fitsBelow centre) maxDivisions 1 width)

lemma narrowed_eq (nonneg : 0 ≤ width) (small : width ≤ 16000) (high : width / 7 ! ≤ 2 * (23000 - centre))
    (low : width / 7 ! ≤ 2 * (centre + 50)) :
    ∃ m ≤ 6, narrowed centre width = width / m ! ∧ Fits centre (width / (m + 1)!) ∧
      ∀ k, 0 < k → k ≤ m → ¬ Fits centre (width / k !) := by
  have below : fitsBelow centre (width / (0 + 6 + 1)! / 2) = true := fitsBelow_iff.mpr (by linarith)
  have above : fitsAbove centre (width / (0 + 6 + 1)! / 2) = true := fitsAbove_iff.mpr (by linarith)
  have whole : width = width / 0 ! := by simp
  have enough : 6 < maxDivisions := by decide
  obtain ⟨m, -, few, first, ends, past⟩ := narrow_eq enough below
  rw [← whole] at first
  cases m with
  | zero =>
    obtain ⟨m, -, few, second, ends', past'⟩ := narrow_eq enough above
    rw [← whole] at first second
    refine ⟨m, by omega, by rw [narrowed, first, second], fits_iff_halves.mpr ⟨?_, ends'⟩, fun k here last fits => ?_⟩
    · have part := div_nat_le_self_of_nonnneg nonneg (m + 1)!
      have wide : centre + width / 2 ≤ 23000 := by simpa [fitsBelow_iff] using ends
      exact fitsBelow_iff.mpr (by linarith)
    · exact absurd (fits_iff_halves.mp fits).2 (by rw [past' k here last]; decide)
  | succ m =>
    have far : 23000 < centre + width / 2 := by simpa [fitsBelow] using past 1 one_pos (by omega)
    have within (k : ℕ) : fitsAbove centre (width / k ! / 2) = true := by
      have part := div_nat_le_self_of_nonnneg nonneg k !
      exact fitsAbove_iff.mpr (by linarith)
    have rest : narrow (fitsAbove centre) maxDivisions 1 (width / (m + 1)!) = width / (m + 1)! := by
      rw [maxDivisions, narrow]
      refine if_pos ?_
      have here := within (m + 1)
      rwa [ofInt_eq, Nat.cast_one, Int.cast_one, div_one, half_eq, one_div, inv_mul_eq_div]
    refine ⟨m + 1, by omega, by rw [narrowed, first, rest], fits_iff_halves.mpr ⟨ends, within _⟩, fun k here last fits => ?_⟩
    exact absurd (fits_iff_halves.mp fits).1 (by rw [past k here last]; decide)

/-! ### Widths on the grid -/

lemma gridWidth_mono {w w' : ℚ} (le : w ≤ w') : gridWidth w ≤ gridWidth w' := by
  have whole : (nearestWhole (10 * w) : ℚ) ≤ nearestWhole (10 * w') := by
    exact_mod_cast nearestWhole_mono (show 10 * w ≤ 10 * w' by linarith)
  rw [gridWidth, gridWidth]
  linarith

lemma abs_sub_gridWidth_le (w : ℚ) : |w - gridWidth w| ≤ 1 / 20 := by
  have near := abs_le.mp (abs_sub_nearestWhole_le (10 * w))
  rw [gridWidth, abs_le]
  constructor
  · linarith
  · linarith

lemma abs_div_sub_mul (positive : 0 < step) (x : ℚ) (n : ℤ) : |x / step - n| * step = |x - n * step| := by
  rw [← abs_of_pos positive, ← abs_mul, abs_of_pos positive, sub_mul, div_mul_cancel₀ x positive.ne']

lemma abs_nearestWhole_mul_sub_le (positive : 0 < step) (x : ℚ) : |nearestWhole (x / step) * step - x| ≤ step / 2 := by
  have near := mul_le_mul_of_nonneg_right (abs_sub_nearestWhole_le (x / step)) positive.le
  rw [abs_div_sub_mul positive, abs_sub_comm] at near
  linarith

/-! ### What a guess is made of -/

structure Guess (centre diff width step : ℚ) : Prop where
  large : 1 / 10 ≤ 4095 * diff
  small : diff ≤ 8000
  below : diff ≤ 23000 - centre
  above : diff ≤ centre + 50
  width_eq : width = gridWidth (narrowed centre (firstWidth diff))
  step_eq : step = width / 4095
  reach : diff ≤ 2047 * step

lemma firstWidth_of_le (positive : 0 < diff) (fits : 4095 * diff ≤ 16000) : firstWidth diff = 4095 * diff := by
  have one : ⌈4095 * diff / 16000⌉ = 1 := by
    rw [Int.ceil_eq_iff]
    constructor
    · rw [Int.cast_one, sub_self]
      positivity
    · rw [Int.cast_one, div_le_one (by norm_num)]
      exact fits
  rw [firstWidth, one, Int.cast_one, div_one]

lemma eq_of_reach {p : Prop} [Decidable p] {w : ℚ} (done : (if p then pure none else do
      let width ← onWidthGrid w
      return if (!lt (width / ofInt maxAddress * ofInt (centreAddress - 1)) diff) = true
        then some (width, width / ofInt maxAddress) else none : Outcome (Option (ℚ × ℚ))) = .ok (some (width, step))) :
    width = gridWidth w ∧ step = width / 4095 ∧ diff ≤ 2047 * step := by
  split at done
  · simp at done
  rw [onWidthGrid_eq, ok_bind, pure_eq_ok] at done
  split at done
  · rename_i reach
    rw [Option.some.injEq, Prod.mk.injEq] at done
    obtain ⟨rfl, rfl⟩ := done
    have reach : diff ≤ gridWidth w / 4095 * 2047 := by simpa [maxAddress, centreAddress] using reach
    rw [maxAddress_eq]
    exact ⟨rfl, rfl, by linarith⟩
  · simp at done

lemma guess_of_guessWidth (guessed : guessWidth centre diff = .ok (some (width, step))) :
    Guess centre diff width step := by
  rw [guessWidth] at guessed
  split at guessed
  · simp at guessed
  rename_i sizes
  split at guessed
  · simp at guessed
  rename_i room
  have sizes : 1 / 10 ≤ diff * 4095 ∧ diff ≤ 16000 / 2 := by simpa [maxAddress, maxWidth] using sizes
  have room : diff ≤ 23000 - centre ∧ diff ≤ centre + 50 := by simpa using room
  have found {w : ℚ} (first : w = firstWidth diff) (last : width = gridWidth (narrowed centre w) ∧ step = width / 4095 ∧
      diff ≤ 2047 * step) : Guess centre diff width step :=
    ⟨by linarith, by linarith, room.1, room.2, first ▸ last.1, last.2.1, last.2.2⟩
  dsimp only at guessed
  split at guessed
  · obtain ⟨factor, divided, guessed⟩ := bind_eq_ok.mp guessed
    obtain rfl := Except.ok.inj divided
    refine found ?_ (eq_of_reach guessed)
    simp [firstWidth, maxAddress, maxWidth]
  · rename_i fits
    have fits : 4095 * diff ≤ 16000 := by simpa [maxAddress, maxWidth] using fits
    obtain ⟨factor, divided, guessed⟩ := bind_eq_ok.mp guessed
    refine found ?_ (eq_of_reach guessed)
    rw [maxAddress_eq, firstWidth_of_le (by linarith) fits]

namespace Guess

lemma positive (guess : Guess centre diff width step) : 0 < diff := by
  have large := guess.large
  linarith

lemma one_le_factor (guess : Guess centre diff width step) : (1 : ℚ) ≤ ⌈4095 * diff / 16000⌉ := by
  have positive : 0 < 4095 * diff / 16000 := by
    have large := guess.large
    linarith
  exact_mod_cast Int.one_le_ceil_iff.mpr positive

lemma firstWidth_pos (guess : Guess centre diff width step) : 0 < firstWidth diff := by
  have large := guess.large
  have factor := guess.one_le_factor
  exact div_pos (by linarith) (by linarith)

lemma firstWidth_le (guess : Guess centre diff width step) : firstWidth diff ≤ 16000 := by
  have factor := guess.one_le_factor
  have above := Int.le_ceil (4095 * diff / 16000)
  rw [firstWidth, div_le_iff₀ (by linarith)]
  linarith

lemma firstWidth_le_mul (guess : Guess centre diff width step) : firstWidth diff ≤ 4095 * diff :=
  div_le_self (by linarith [guess.large]) guess.one_le_factor

lemma passes (guess : Guess centre diff width step) :
    ∃ m ≤ 6, narrowed centre (firstWidth diff) = firstWidth diff / m ! ∧ Fits centre (firstWidth diff / (m + 1)!) ∧
      ∀ k, 0 < k → k ≤ m → ¬ Fits centre (firstWidth diff / k !) := by
  have small : firstWidth diff / 7 ! ≤ diff := by
    rw [show 7 ! = 5040 from rfl, div_le_iff₀ (by norm_num)]
    push_cast
    linarith [guess.firstWidth_le_mul, guess.positive]
  have below := guess.below
  have above := guess.above
  have positive := guess.positive
  exact narrowed_eq guess.firstWidth_pos.le guess.firstWidth_le (by linarith) (by linarith)

lemma step_pos (guess : Guess centre diff width step) : 0 < step := by
  have reach := guess.reach
  have positive := guess.positive
  linarith

lemma width_pos (guess : Guess centre diff width step) : 0 < width := by
  have step := guess.step_pos
  rw [guess.step_eq] at step
  linarith

lemma width_le_first (guess : Guess centre diff width step) : width ≤ gridWidth (firstWidth diff) := by
  obtain ⟨m, -, part, -⟩ := guess.passes
  rw [guess.width_eq, part]
  exact gridWidth_mono (div_nat_le_self_of_nonnneg guess.firstWidth_pos.le m !)

lemma width_le (guess : Guess centre diff width step) : width ≤ 16000 := by
  have most : gridWidth 16000 = 16000 := gridWidth_of_onGrid ⟨160000, by norm_num⟩
  exact guess.width_le_first.trans ((gridWidth_mono guess.firstWidth_le).trans most.le)

lemma nearest_mem (guess : Guess centre diff width step) :
    0 ≤ nearestWhole (diff / step) ∧ nearestWhole (diff / step) ≤ 2047 := by
  have step := guess.step_pos
  constructor
  · refine le_nearestWhole ?_
    rw [Int.cast_zero]
    exact (div_pos guess.positive step).le
  · refine nearestWhole_le ?_
    rw [div_le_iff₀ step]
    exact_mod_cast guess.reach

lemma reaches_above (guess : Guess centre diff width step) : Reaches centre step (centre + diff) := by
  obtain ⟨low, high⟩ := guess.nearest_mem
  refine ⟨2048 + nearestWhole (diff / step), by omega, by omega, ?_⟩
  have same : centre + (((2048 + nearestWhole (diff / step) : ℤ) : ℚ) - 2048) * step - (centre + diff) =
      nearestWhole (diff / step) * step - diff := by
    push_cast
    ring
  rw [same]
  exact abs_nearestWhole_mul_sub_le guess.step_pos diff

lemma reaches_below (guess : Guess centre diff width step) : Reaches centre step (centre - diff) := by
  obtain ⟨low, high⟩ := guess.nearest_mem
  refine ⟨2048 - nearestWhole (diff / step), by omega, by omega, ?_⟩
  have same : centre + (((2048 - nearestWhole (diff / step) : ℤ) : ℚ) - 2048) * step - (centre - diff) =
      -(nearestWhole (diff / step) * step - diff) := by
    push_cast
    ring
  rw [same, abs_neg]
  exact abs_nearestWhole_mul_sub_le guess.step_pos diff

lemma leaves_of_first (guess : Guess centre diff width step) (leaves : ¬ Fits centre (firstWidth diff)) :
    ¬ Fits centre (width + 1 / 20) := by
  obtain ⟨m, -, part, ends, past⟩ := guess.passes
  have near := (abs_le.mp (abs_sub_gridWidth_le (firstWidth diff / m !))).2
  rw [← part, ← guess.width_eq, part] at near
  have left : ¬ Fits centre (firstWidth diff / m !) := by
    cases m with
    | zero => simpa using leaves
    | succ m => exact past _ m.succ_pos le_rfl
  exact fun fits => left (fits.of_le (by linarith))

end Guess

/-- A guessed width is on its grid, can be set and has a step that reaches as far up and down as was asked. It is the factorial
part of the first width at which the passes end. It stays in the field range if the first width does on its grid, and if the
first width does not, it stays there by rounding at most. -/
theorem guessed_width_reaches (guessed : guessWidth centre diff = .ok (some (width, step))) :
    (OnGrid width ∧ 0 < width ∧ width ≤ 16000 ∧ step = width / 4095) ∧
      (Reaches centre step (centre + diff) ∧ Reaches centre step (centre - diff)) ∧
      (∃ m, width = gridWidth (firstWidth diff / m !) ∧ Fits centre (firstWidth diff / (m + 1)!) ∧
        ∀ k, 0 < k → k ≤ m → ¬ Fits centre (firstWidth diff / k !)) ∧
      (Fits centre (gridWidth (firstWidth diff)) → Fits centre width) ∧
      (¬ Fits centre (firstWidth diff) → ¬ Fits centre (width + 1 / 20)) := by
  have guess := guess_of_guessWidth guessed
  obtain ⟨m, -, part, ends, past⟩ := guess.passes
  refine ⟨⟨onGrid_of_guessWidth guessed, guess.width_pos, guess.width_le, guess.step_eq⟩,
    ⟨guess.reaches_above, guess.reaches_below⟩, ⟨m, ?_, ends, past⟩, fun fits => fits.of_le guess.width_le_first,
    guess.leaves_of_first⟩
  rw [guess.width_eq, part]

/-- In the middle of the field range 500 G are reached by a sweep of 15996.1 G. -/
theorem middle_width_reaches : guessWidth (10000 : ℚ) 500 = .ok (some (159961 / 10, 159961 / 40950)) ∧
    Fits (10000 : ℚ) (gridWidth (firstWidth 500)) ∧ Fits 10000 (159961 / 10) ∧
      Reaches 10000 (159961 / 40950) (10000 + 500) ∧ Reaches 10000 (159961 / 40950) (10000 - 500) := by
  have guessed : guessWidth (10000 : ℚ) 500 = .ok (some (159961 / 10, 159961 / 40950)) := by decide +kernel
  have first : Fits (10000 : ℚ) (gridWidth (firstWidth 500)) := by decide +kernel
  obtain ⟨-, ⟨above, below⟩, -, fits, -⟩ := guessed_width_reaches guessed
  exact ⟨guessed, first, fits first, above, below⟩

/-- About 22000 G a sweep of 2666 G is left for the same way, which goes up to 23333 G. -/
theorem guessed_width_leaves_range : (after [.set 22000] (fresh busLine) {}).1.centre = some 22000 ∧
    guessWidth (22000 : ℚ) 500 = .ok (some (2666, 2666 / 4095)) ∧ ¬ Fits 22000 2666 := by
  decide +kernel

end EprBench.Magnet
