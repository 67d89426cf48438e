import EprBench.Proofs.Names
import EprBench.Proofs.Quantity
import EprBench.Proofs.Tensor
import EprBench.Spectrum.Commands

/-! Spectra of one signal and of several, one in each row. Main statement: the frequencies rise, and what is told of a row is what
its signal has at them. Only magnitudes of several signals are put in order row by row, and not point by point. -/
namespace EprBench.Spectrum

open List Outcome Tensor

section

variable {α : Type} [Quantity α]

lemma ascending_perm (xs : List α) : (ascending xs).Perm (List.range xs.length) := by
  have sorted := (mergeSort_perm xs.zipIdx fun a b => Quantity.le a.1 b.1 || !Quantity.le b.1 b.1).map (·.2)
  rwa [zipIdx_map_snd, ← List.range_eq_range'] at sorted

omit [Quantity α] in
lemma along_eq (t : Transform α) {axis m : ℕ} {data : Tensor (Phasor α)} (size : data.shape[axis]? = some m)
    (some : 0 < m) : t.along axis data = .ok ⟨data.shape, alongAxis t.harmonics axis data.shape data.cells⟩ := by
  obtain ⟨m, rfl⟩ := Nat.exists_eq_succ_of_ne_zero some.ne'
  rw [Transform.along, size]
  rfl

/-- Rows are picked by the numbers of points. -/
lemma magnitudes_eq_error (t : Transform α) {data : Tensor (Phasor α)} {rows : ℕ} {fs : List α}
    (shape : data.shape = [rows, fs.length]) (few : rows < fs.length) : magnitudes t data (.ok fs) = .error .outOfRange := by
  have member : rows ∈ ascending fs := (ascending_perm fs).mem_iff.mpr (mem_range.mpr few)
  have refused (cells : List (Phasor α)) :
      pickAll (ascending fs) (pieces rows (volume [fs.length]) cells) = .error .outOfRange := by
    rw [pickAll_eq, if_neg]
    exact fun within => by simpa [length_pieces] using within rows member
  have along := along_eq t (by rw [shape]; rfl : data.shape[1]? = _) (by omega : 0 < fs.length)
  have picked := (pickAll_eq (ascending fs) fs).trans
    (if_pos fun i inside => mem_range.mp ((ascending_perm fs).mem_iff.mp inside))
  simp [magnitudes, along, shape, picked, Tensor.reordered, Tensor.take, refused]

lemma parts_eq {t : Transform α} {axis place : ℕ} {data spectrum : Tensor (Phasor α)} {fs gs : List α}
    {cells : List (Phasor α)} (along : t.along axis data = .ok spectrum) (picked : pickAll (ascending fs) fs = .ok gs)
    (reordered : spectrum.reordered (ascending fs) place = .ok ⟨data.shape, cells⟩)
      (size : cells.length = volume data.shape) :
    parts t axis place data (.ok fs) = .ok (gs, ⟨data.shape, cells.map (·.re)⟩, ⟨data.shape, cells.map (·.im)⟩) := by
  simp only [parts, along, picked, reordered, fitted_self size, ok_bind]
  rfl

end

/-! ### Exact numbers -/

/-- The nearest whole number, an exact half going to the even one. -/
noncomputable def toWhole (x : ℝ) : ℤ := if Int.fract x = 1 - Int.fract x ∧ Even ⌊x⌋ then ⌊x⌋ else round x

noncomputable instance exactReal : Quantity ℝ where
  toAdd := inferInstance
  toSub := inferInstance
  toMul := inferInstance
  toDiv := inferInstance
  ofInt n := n
  decimal m e := m / 10 ^ e
  lt a b := decide (a < b)
  le a b := decide (a ≤ b)
  abs x := |x|
  nearest x := .ok (toWhole x)
  floor x := .ok ⌊x⌋
  ceiling x := .ok ⌈x⌉
  rounded n x := toWhole (x * 10 ^ n) / 10 ^ n
  text x := Quantity.exactText 6 (toWhole (x * 10 ^ 6) / 10 ^ 6)
  places x := Quantity.exactText 3 (toWhole (x * 10 ^ 3) / 10 ^ 3)

/-- What a signal has at so many turns for each sample. -/
noncomputable def content (xs : List (Phasor ℝ)) (turn : ℝ) : ℂ :=
  (xs.zipIdx.map fun x => ⟨x.1.re, x.1.im⟩ * (Real.fourierChar (-(turn * x.2)) : ℂ)).sum

def phasorOf (z : ℂ) : Phasor ℝ := ⟨z.re, z.im⟩

/-- The discrete Fourier transform. -/
noncomputable def exactTransform : Transform ℝ where
  harmonics xs := (List.range xs.length).map fun k : ℕ => phasorOf (content xs (k / xs.length))
  modulus z := ‖(⟨z.re, z.im⟩ : ℂ)‖

/-- What a signal has at a frequency in MHz, with samples that are so many ns apart. -/
noncomputable def contentAt (spacing : ℝ) (xs : List (Phasor ℝ)) (f : ℝ) : ℂ := content xs (f * (spacing / 10 ^ 3))

lemma length_harmonics (xs : List (Phasor ℝ)) : (exactTransform.harmonics xs).length = xs.length := by simp [exactTransform]

lemma content_sub_one (xs : List (Phasor ℝ)) (turn : ℝ) : content xs (turn - 1) = content xs turn := by
  refine congrArg List.sum (map_congr_left fun x _ => ?_)
  have whole : Real.fourierChar x.2 = 1 := by exact_mod_cast Circle.exp_two_pi_mul_int x.2
  have split : -((turn - 1) * x.2) = -(turn * x.2) + (x.2 : ℝ) := by ring
  rw [split, AddChar.map_add_eq_mul, whole, mul_one]

/-! ### Frequencies -/

lemma turns_eq (n : ℕ) : turns n = (List.range n).map fun k => if k < (n + 1) / 2 then (k : ℤ) else k - n := by
  refine ext_getElem (by simp [turns]; omega) fun k inside _ => ?_
  simp only [turns, getElem_append, getElem_map, getElem_range, length_map, length_range]
  simp only [turns, length_append, length_map, length_range] at inside
  split
  · rfl
  · omega

lemma turns_nodup (n : ℕ) : (turns n).Nodup := by
  rw [turns_eq]
  refine pairwise_map.mpr (pairwise_lt_range.imp_of_mem fun hj hk less => ?_)
  have := mem_range.mp hj
  have := mem_range.mp hk
  split <;> split <;> omega

variable {n : ℕ} {spacing : ℝ}

/-- The frequencies of a spectrum, in the order of its harmonics. -/
noncomputable def axis (n : ℕ) (spacing : ℝ) : List ℝ := (turns n).map fun k : ℤ => k * (1 / (n * (spacing * (1 / 10 ^ 3))))

lemma length_axis (n : ℕ) (spacing : ℝ) : (axis n spacing).length = n := by
  rw [axis, turns_eq, length_map, length_map, length_range]

lemma frequencies_eq (some : 0 < n) (positive : 0 < spacing) : frequencies n spacing = .ok (axis n spacing) := by
  have away : Quantity.isZero (Quantity.ofInt n * (spacing * Quantity.decimal 1 3)) = false := by
    have high : ¬ (n : ℝ) * (spacing * (10 ^ 3)⁻¹) ≤ 0 := not_le.mpr (by positivity)
    simp [Quantity.isZero, Quantity.zero, Quantity.le, Quantity.ofInt, Quantity.decimal, high]
  rw [frequencies, Quantity.quotient, away]
  simp [axis, Quantity.ofInt, Quantity.decimal]

lemma axis_nodup (some : 0 < n) (positive : 0 < spacing) : (axis n spacing).Nodup := by
  have unit : (1 / (n * (spacing * (1 / 10 ^ 3))) : ℝ) ≠ 0 := by positivity
  exact (turns_nodup n).map fun j k same => by exact_mod_cast mul_right_cancel₀ unit same

/-- The later half of the harmonics turn backwards. -/
lemma harmonics_eq (positive : 0 < spacing) (xs : List (Phasor ℝ)) :
    exactTransform.harmonics xs = (axis xs.length spacing).map fun f => phasorOf (contentAt spacing xs f) := by
  simp only [exactTransform, axis, turns_eq, map_map]
  refine map_congr_left fun k member => congrArg phasorOf ?_
  have some : (xs.length : ℝ) ≠ 0 := Nat.cast_ne_zero.mpr (Nat.ne_zero_of_lt (mem_range.mp member))
  have scaled (m : ℝ) : m * (1 / (xs.length * (spacing * (1 / 10 ^ 3)))) * (spacing / 10 ^ 3) = m / xs.length := by
    field_simp
  dsimp only [Function.comp_apply]
  rw [contentAt, scaled]
  split
  · rfl
  · rw [← content_sub_one xs (k / xs.length)]
    congr 1
    push_cast
    field_simp

lemma exists_sorted {fs : List ℝ} (distinct : fs.Nodup) :
    ∃ gs, pickAll (ascending fs) fs = .ok gs ∧ gs.Pairwise (· < ·) ∧ gs.Perm fs := by
  have le_eq (a b : ℝ) : (Quantity.le a b || !Quantity.le b b) = decide (a ≤ b) := by simp [Quantity.le]
  have sorted := mergeSort_perm fs.zipIdx fun a b => decide (a.1 ≤ b.1)
  have perm := sorted.map (·.1)
  rw [zipIdx_map_fst] at perm
  have rises := @pairwise_mergeSort (ℝ × ℕ) (fun a b => decide (a.1 ≤ b.1)) (by simpa using fun _ _ _ => le_trans)
    (by simpa using fun _ _ => le_total _ _) fs.zipIdx
  refine ⟨_, ?_, ?_, perm⟩
  · simp only [ascending, le_eq]
    exact pickAll_snd fun z member => List.mem_zipIdx_iff_getElem?.mp (sorted.mem_iff.mp member)
  · have weakly := pairwise_map.mpr (rises.imp of_decide_eq_true)
    exact (weakly.and (perm.nodup_iff.mpr distinct)).imp fun both => both.1.lt_of_ne both.2

/-! ### Spectra -/

/-- A part of what a signal has at some frequencies. -/
noncomputable def partAt (part : ℂ → ℝ) (spacing : ℝ) (fs : List ℝ) (xs : List (Phasor ℝ)) : List ℝ :=
  fs.map fun f => part (contentAt spacing xs f)

section

variable {gs : List ℝ} {xs : List (Phasor ℝ)} {rows : List (List (Phasor ℝ))}

lemma length_ascending_axis (n : ℕ) (spacing : ℝ) : (ascending (axis n spacing)).length = n := by
  rw [(ascending_perm _).length_eq, length_range, length_axis]

lemma pick_harmonics (positive : 0 < spacing) (size : xs.length = n)
    (picked : pickAll (ascending (axis n spacing)) (axis n spacing) = .ok gs) :
    pickAll (ascending (axis n spacing)) (exactTransform.harmonics xs) =
      .ok (gs.map fun f => phasorOf (contentAt spacing xs f)) := by
  rw [harmonics_eq positive, size, pickAll_map, picked]
  rfl

lemma spectrum_row (some : 0 < xs.length) (positive : 0 < spacing)
    (picked : pickAll (ascending (axis xs.length spacing)) (axis xs.length spacing) = .ok gs)
      (count : gs.length = xs.length) : parts exactTransform 0 0 (.row xs) (.ok (axis xs.length spacing)) =
        .ok (gs, ⟨[xs.length], partAt Complex.re spacing gs xs⟩, ⟨[xs.length], partAt Complex.im spacing gs xs⟩) ∧
      magnitudes exactTransform (.row xs) (.ok (axis xs.length spacing)) =
        .ok (gs, ⟨[xs.length], partAt norm spacing gs xs⟩) := by
  have along : exactTransform.along 0 (.row xs) = .ok ⟨[xs.length], exactTransform.harmonics xs⟩ := by
    rw [along_eq _ (rfl : (Tensor.row xs).shape[0]? = _) some, ← alongAxis_row (length_harmonics xs)]
    rfl
  have reordered : Tensor.reordered (ascending (axis xs.length spacing)) 0 ⟨[xs.length], exactTransform.harmonics xs⟩ =
      .ok ⟨[xs.length], gs.map fun f => phasorOf (contentAt spacing xs f)⟩ := by
    have taken := take_row (ascending (axis xs.length spacing)) (exactTransform.harmonics xs)
    rw [length_harmonics, pick_harmonics positive rfl picked] at taken
    rw [Tensor.reordered, taken, length_ascending_axis]
    rfl
  constructor
  · rw [parts_eq along picked reordered (by simp [count, Tensor.row, volume]), map_map, map_map]
    rfl
  · have along : exactTransform.along ((Tensor.row xs).shape.length - 1) (.row xs) = _ := along
    simp only [magnitudes, along, picked, reordered, ok_bind, Tensor.map, map_map]
    rfl

lemma parts_rows (some : 0 < n) (positive : 0 < spacing) (even : ∀ row ∈ rows, row.length = n)
    (picked : pickAll (ascending (axis n spacing)) (axis n spacing) = .ok gs) (count : gs.length = n) :
    parts exactTransform 1 1 ⟨[rows.length, n], rows.flatten⟩ (.ok (axis n spacing)) =
      .ok (gs, ⟨[rows.length, n], rows.flatMap (partAt Complex.re spacing gs)⟩,
        ⟨[rows.length, n], rows.flatMap (partAt Complex.im spacing gs)⟩) := by
  have along : exactTransform.along 1 ⟨[rows.length, n], rows.flatten⟩ =
      .ok ⟨[rows.length, n], (rows.map exactTransform.harmonics).flatten⟩ := by
    rw [along_eq _ (rfl : [rows.length, n][1]? = _) some, alongAxis_rows length_harmonics even]
  have reordered : Tensor.reordered (ascending (axis n spacing)) 1
    ⟨[rows.length, n], (rows.map exactTransform.harmonics).flatten⟩ =
      .ok ⟨[rows.length, n], rows.flatMap fun xs => gs.map fun f => phasorOf (contentAt spacing xs f)⟩ := by
    have sizes : ∀ row ∈ rows, (exactTransform.harmonics row).length = n := fun row member =>
      (length_harmonics row).trans (even row member)
    rw [Tensor.reordered, take_rows sizes fun row member => pick_harmonics positive (even row member) picked,
      length_ascending_axis]
    rfl
  rw [parts_eq along picked reordered (by simp [count, volume]), map_flatMap, map_flatMap]
  simp only [map_map]
  rfl

end

/-- **Spectra.** The frequencies rise, and the parts of each signal are what it has at just these frequencies; so are the magnitudes
of a single signal. Several signals have none if there are fewer of them than points. -/
theorem spectrum_is_told_at_rising_frequencies (some : 0 < n) (positive : 0 < spacing) :
    ∃ fs gs, frequencies n spacing = .ok fs ∧ gs.Perm fs ∧ gs.Pairwise (· < ·) ∧
      (∀ xs : List (Phasor ℝ), xs.length = n → parts exactTransform 0 0 (.row xs) (.ok fs) =
            .ok (gs, ⟨[n], partAt Complex.re spacing gs xs⟩, ⟨[n], partAt Complex.im spacing gs xs⟩) ∧
          magnitudes exactTransform (.row xs) (.ok fs) = .ok (gs, ⟨[n], partAt norm spacing gs xs⟩)) ∧
      ∀ rows : List (List (Phasor ℝ)), (∀ row ∈ rows, row.length = n) →
        parts exactTransform 1 1 ⟨[rows.length, n], rows.flatten⟩ (.ok fs) =
            .ok (gs, ⟨[rows.length, n], rows.flatMap (partAt Complex.re spacing gs)⟩,
              ⟨[rows.length, n], rows.flatMap (partAt Complex.im spacing gs)⟩) ∧
          (rows.length < n → magnitudes exactTransform ⟨[rows.length, n], rows.flatten⟩ (.ok fs) = .error .outOfRange) := by
  obtain ⟨gs, picked, rises, perm⟩ := exists_sorted (axis_nodup some positive)
  have count : gs.length = n := perm.length_eq.trans (length_axis n spacing)
  refine ⟨_, gs, frequencies_eq some positive, perm, rises, ?_, fun rows even => ⟨parts_rows some positive even picked count, ?_⟩⟩
  · rintro xs rfl
    exact spectrum_row some positive picked count
  · intro few
    exact magnitudes_eq_error _ (by rw [length_axis]) (few.trans_eq (length_axis n spacing).symm)

theorem two_points_are_told_at_rising_frequencies :
    ∃ fs gs, frequencies 2 (1 : ℝ) = .ok fs ∧ gs.Perm fs ∧ gs.Pairwise (· < ·) ∧
      magnitudes exactTransform (.row [⟨1, 0⟩, ⟨0, 0⟩]) (.ok fs) = .ok (gs, ⟨[2], partAt norm 1 gs [⟨1, 0⟩, ⟨0, 0⟩]⟩) ∧
      ∃ re im, parts exactTransform 1 1 ⟨[2, 2], [⟨1, 0⟩, ⟨0, 0⟩, ⟨0, 1⟩, ⟨0, 0⟩]⟩ (.ok fs) = .ok (gs, ⟨[2, 2], re⟩, ⟨[2, 2], im⟩) := by
  obtain ⟨fs, gs, told, perm, rises, single, several⟩ :=
    spectrum_is_told_at_rising_frequencies (n := 2) (by decide) (zero_lt_one' ℝ)
  exact ⟨fs, gs, told, perm, rises, (single _ rfl).2, _, _, (several [[⟨1, 0⟩, ⟨0, 0⟩], [⟨0, 1⟩, ⟨0, 0⟩]] (by simp)).1⟩

/-- Signals that are fewer than their points have no magnitudes. -/
lemma spectrumOf_few {a i q d : Value} {fs : List Float} {data : Tensor (Phasor Float)} {rows : ℕ}
    (axis : frequenciesOf a d = .ok fs) (signals : signal i q = .ok data) (shape : data.shape = [rows, fs.length])
    (few : rows < fs.length) : spectrumOf a i q d "False" = .error .outOfRange := by
  have named : Value.equals "False" "False" = .ok true := equals_text _ _
  simp only [spectrumOf, named, signals, axis, magnitudes_eq_error doubles shape few, ok_bind, if_true]
  rfl

/-- One row of two points. -/
theorem row_has_no_magnitudes :
    spectrumOf (.floats [2] #[0, 1]) (.floats [1, 2] #[1, 0]) (.floats [1, 2] #[0, 0]) (.int 1) "False" =
      .error .outOfRange := by
  obtain ⟨fs, axis, points⟩ : ∃ fs, frequenciesOf (.floats [2] #[0, 1]) (.int 1) = .ok fs ∧ fs.length = 2 := ⟨_, rfl, rfl⟩
  exact spectrumOf_few axis rfl (by rw [points]) (by rw [points]; decide)

end EprBench.Spectrum
