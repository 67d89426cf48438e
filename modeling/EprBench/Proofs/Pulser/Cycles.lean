import EprBench.Proofs.Names
import EprBench.Proofs.Quantity
import EprBench.Proofs.Tensor
import EprBench.Pulser.Cycle

/-! Acquisition cycles without rounding errors. The sum is kept in an array of the common shape of both arrays, all rows of which
are alike; so the first row of the mean is a sum of complex numbers, whatever the shape of the records. -/
namespace EprBench.Pulser.Cycle

open Complex Tensor List

/-! ### Turned records -/

/-- A sample as a complex number. -/
noncomputable def Quadratures.complex (q : Quadratures ℚ) : ℂ := q.re + q.im * I

lemma Quadratures.complex_injective : Function.Injective Quadratures.complex := by
  rintro ⟨a, b⟩ ⟨c, d⟩ same
  simpa [Quadratures.complex, Complex.ext_iff] using same

noncomputable def Turn.unit : Turn → ℂ
  | .none => 1
  | .quarter => I
  | .half => -1
  | .back => -I

/-- The units that the entries of a cycle name. -/
noncomputable def units : List (String × ℂ) :=
  [("+", 1), ("-", -1), ("+i", I), ("-i", -I), ("+x", 1), ("-x", -1), ("+y", I), ("-y", -I)]

lemma turn_of_units {name : String} {u : ℂ} (named : (name, u) ∈ units) :
    ∃ t : Turn, turns.lookup name = some t ∧ t.unit = u := by
  simp only [units, mem_cons, not_mem_nil, or_false, Prod.mk.injEq] at named
  rcases named with ⟨rfl, rfl⟩ | ⟨rfl, rfl⟩ | ⟨rfl, rfl⟩ | ⟨rfl, rfl⟩ | ⟨rfl, rfl⟩ | ⟨rfl, rfl⟩ | ⟨rfl, rfl⟩ | ⟨rfl, rfl⟩
  all_goals exact ⟨_, rfl, rfl⟩

lemma Turn.complex_second (t : Turn) (s : Quadratures ℚ) (a b : ℚ) :
    (t.second (t.first s a) b).complex = s.complex + t.unit * (a + b * I) := by
  cases t <;> simp only [Turn.first, Turn.second, Quadratures.complex, Turn.unit] <;> push_cast
  · ring
  · linear_combination -(b : ℂ) * I_mul_I
  · ring
  · linear_combination (b : ℂ) * I_mul_I

/-! ### Cycles -/

/-- An entry of a cycle with its records, one of each array. -/
structure Record (r₁ r₂ : List ℕ) where
  name : String
  unit : ℂ
  named : (name, unit) ∈ units
  first : List ℚ
  second : List ℚ
  first_whole : first.length = volume r₁
  second_whole : second.length = volume r₂

/-- The samples of a record in an array of this shape. -/
def widened (own row : List ℕ) (xs : List ℚ) : List ℚ := spread (padded row.length own) row xs

variable {r₁ r₂ row : List ℕ} {j : ℕ}

namespace Record

/-- The complex sample of a record at one place of a row. -/
noncomputable def sample (row : List ℕ) (r : Record r₁ r₂) (i : ℕ) : ℂ :=
  (widened r₁ row r.first).getD i 0 + (widened r₂ row r.second).getD i 0 * I

/-- The same records, with an entry that is turned by a quarter. -/
structure Turned (r r' : Record r₁ r₂) : Prop where
  unit : r'.unit = I * r.unit
  first : r'.first = r.first
  second : r'.second = r.second

end Record

def firsts (rs : List (Record r₁ r₂)) : Tensor ℚ := ⟨rs.length :: r₁, (rs.map (·.first)).flatten⟩

def seconds (rs : List (Record r₁ r₂)) : Tensor ℚ := ⟨rs.length :: r₂, (rs.map (·.second)).flatten⟩

def cycle (rs : List (Record r₁ r₂)) : Value := .list (rs.map fun r => .text r.name)

/-- What a cycle gives for the records. -/
def averaged (rs : List (Record r₁ r₂)) : Outcome (Tensor ℚ × Tensor ℚ) := average (firsts rs) (seconds rs) (cycle rs)

/-! ### Equal rows -/

/-- An array of so many equal rows. -/
def repeated {β : Type} (n : ℕ) (row : List ℕ) (cells : List β) : Tensor β :=
  ⟨n :: row, (List.replicate n cells).flatten⟩

lemma volume_cons (n : ℕ) (row : List ℕ) : volume (n :: row) = n * volume row := rfl

section

variable {β γ : Type} {n : ℕ} {own : List ℕ} {cells : List β} {xs : List γ}

lemma length_repeated (size : cells.length = volume row) : (List.replicate n cells).flatten.length = volume (n :: row) := by
  simp [volume_cons, size]

lemma record_map {δ : Type} {rs : List δ} {f : δ → List β} {r : δ} (even : ∀ r, (f r).length = volume own)
    (here : rs[j]? = some r) : record ⟨rs.length :: own, (rs.map f).flatten⟩ j = .ok ⟨own, f r⟩ := by
  have cut := pieces_flatten (by simp [even] : ∀ xs ∈ rs.map f, xs.length = volume own)
  rw [length_map] at cut
  simp only [record, cut, getElem?_map, here, Option.map_some]

lemma record_repeated (some : 0 < n) (size : cells.length = volume row) : record (repeated n row cells) 0 = .ok ⟨row, cells⟩ := by
  have first : (List.replicate n ())[0]? = .some () := by simp [some]
  have cut := record_map (f := fun _ => cells) (fun _ => size) first
  rwa [map_replicate, length_replicate] at cut

lemma zipWith_repeated_record (f : β → γ → β) (short : own.length ≤ row.length) (fits : Fits (padded row.length own) row)
    (size : cells.length = volume row) (whole : xs.length = volume own) : (repeated n row cells).zipWith f ⟨own, xs⟩ =
      .ok (repeated n row (List.zipWith f cells (spread (padded row.length own) row xs))) := by
  have rank : max (n :: row).length own.length = row.length + 1 := by
    rw [length_cons]
    omega
  have wide : padded (row.length + 1) (n :: row) = n :: row := padded_self (n :: row)
  have volumes := whole.trans (volume_padded row.length own).symm
  have joins : Tensor.joined (n :: row) (1 :: padded row.length own) = some (n :: row) := by
    simp [Tensor.joined, fits.joined_eq]
  have same : cells.length = (spread (padded row.length own) row xs).length := by
    rw [size, fits.length_spread volumes]
  simp only [Tensor.zipWith, repeated, rank, wide, padded_succ short, joins, spread_self (length_repeated size),
    spread_repeats n volumes, zipWith_repeated f n same]

end

/-! ### The sum -/

/-- Both arrays fit an array with this row. -/
structure Common (r₁ r₂ row : List ℕ) : Prop where
  first_short : r₁.length ≤ row.length
  first_fits : Fits (padded row.length r₁) row
  second_short : r₂.length ≤ row.length
  second_fits : Fits (padded row.length r₂) row

/-- The sum of the turned samples at one place of a row. -/
noncomputable def sumAt (row : List ℕ) (rs : List (Record r₁ r₂)) (i : ℕ) : ℂ := (rs.map fun r => r.unit * r.sample row i).sum

/-- The cells of a row are the sums over these records. -/
def Sums (row : List ℕ) (rs : List (Record r₁ r₂)) (cells : List (Quadratures ℚ)) : Prop :=
  cells.map Quadratures.complex = (List.range (volume row)).map (sumAt row rs)

lemma Sums.length {rs : List (Record r₁ r₂)} {cells : List (Quadratures ℚ)} (sums : Sums row rs cells) :
    cells.length = volume row := by
  simpa using congrArg List.length sums

lemma length_widened {own : List ℕ} (fits : Fits (padded row.length own) row) {xs : List ℚ} (whole : xs.length = volume own) :
    (widened own row xs).length = volume row :=
  fits.length_spread (whole.trans (volume_padded _ _).symm)

section

variable {rs done rest : List (Record r₁ r₂)} {r : Record r₁ r₂} {cells : List (Quadratures ℚ)} {t : Turn}

lemma Sums.append (common : Common r₁ r₂ row) (sums : Sums row done cells) (turned : t.unit = r.unit) :
    Sums row (done ++ [r])
      (List.zipWith t.second (List.zipWith t.first cells (widened r₁ row r.first)) (widened r₂ row r.second)) := by
  have first := length_widened common.first_fits r.first_whole
  have second := length_widened common.second_fits r.second_whole
  refine ext_getElem (by simp [sums.length, first, second]) fun i inside within => ?_
  have low : i < volume row := by simpa using within
  have before : (cells.get ⟨i, sums.length.symm ▸ low⟩).complex = sumAt row done i := by
    have := congrArg (·[i]?) sums
    simpa [low, sums.length] using this
  simp only [getElem_map, getElem_zipWith, getElem_range, Turn.complex_second, turned, sumAt, map_append,
    sum_append, map_cons, map_nil, sum_singleton, Record.sample]
  rw [getD_eq_getElem _ _ (first.symm ▸ low), getD_eq_getElem _ _ (second.symm ▸ low)]
  exact congrArg (· + _) before

/-- One entry: its turned records are added in every row. -/
lemma addRecords_eq (common : Common r₁ r₂ row) (here : rs[j]? = some r) (sums : Sums row done cells) :
    ∃ cells', addRecords (firsts rs) (seconds rs) (repeated rs.length row cells) (.text r.name, j) =
      .ok (repeated rs.length row cells') ∧ Sums row (done ++ [r]) cells' := by
  obtain ⟨t, found, turned⟩ := turn_of_units r.named
  refine ⟨_, ?_, sums.append common turned⟩
  have size : (List.zipWith t.first cells (widened r₁ row r.first)).length = volume row := by
    simp [sums.length, length_widened common.first_fits r.first_whole]
  simp only [addRecords, firsts, seconds, choice_text, found, Outcome.ok_bind, record_map Record.first_whole here,
    record_map Record.second_whole here,
    zipWith_repeated_record t.first common.first_short common.first_fits sums.length r.first_whole]
  exact zipWith_repeated_record t.second common.second_short common.second_fits size r.second_whole

/-- All entries: the induction is on those that are left, and the rows stay alike. -/
lemma foldlM_addRecords (common : Common r₁ r₂ row) (split : rs = done ++ rest) (sums : Sums row done cells) :
    ∃ cells', ((rest.map fun r => Value.text r.name).zipIdx done.length).foldlM (addRecords (firsts rs) (seconds rs))
      (repeated rs.length row cells) = .ok (repeated rs.length row cells') ∧ Sums row rs cells' := by
  induction rest generalizing done cells with
  | nil =>
    obtain rfl : rs = done := by simpa using split
    exact ⟨cells, rfl, sums⟩
  | cons r rest ih =>
    have here : rs[done.length]? = some r := by simp [split]
    obtain ⟨cells', added, sums'⟩ := addRecords_eq common here sums
    obtain ⟨cells'', all, total⟩ := ih (by simpa using split) sums'
    refine ⟨cells'', ?_, total⟩
    rw [length_append, length_singleton] at all
    rw [map_cons, zipIdx_cons, foldlM_cons, added]
    exact all

end

/-! ### The mean -/

/-- The shape of two arrays that are combined. -/
def commonShape (a b : List ℕ) : Option (List ℕ) :=
  let rank := max a.length b.length
  Tensor.joined (padded rank a) (padded rank b)

lemma commonShape_cons {n : ℕ} {shape : List ℕ} (shared : commonShape (n :: r₁) (n :: r₂) = some shape) :
    ∃ row, shape = n :: row ∧ Common r₁ r₂ row := by
  have rank : max (n :: r₁).length (n :: r₂).length = max r₁.length r₂.length + 1 := by simp
  rw [commonShape, rank] at shared
  obtain ⟨first, second⟩ := fits_of_joined shared
  obtain ⟨x, xs, left, hx⟩ := padded_cons (n := n) (le_max_left r₁.length r₂.length)
  obtain ⟨y, ys, right, hy⟩ := padded_cons (n := n) (le_max_right r₁.length r₂.length)
  have heads := shared
  rw [left, right] at heads
  obtain ⟨row, head⟩ := head_of_joined heads
  obtain ⟨z, rfl, chosen⟩ : ∃ z, shape = z :: row ∧ (z = x ∨ z = y) := by
    rcases head with rfl | rfl
    · exact ⟨x, rfl, .inl rfl⟩
    · exact ⟨y, rfl, .inr rfl⟩
  have one : (x = 1 ∨ x = z) ∧ (y = 1 ∨ y = z) := by
    rw [left] at first
    rw [right] at second
    exact ⟨(forall₂_cons.mp first).1, (forall₂_cons.mp second).1⟩
  obtain rfl : z = n := by omega
  have own := fits_rows (by omega) first
  have other := fits_rows (by omega) second
  exact ⟨row, rfl, own.1, own.2, other.1, other.2⟩

lemma commonShape_self (shape : List ℕ) : commonShape shape shape = some shape := by
  rw [commonShape, max_self, padded_self, joined_self]

section

variable {rs : List (Record r₁ r₂)}

/-- The array in which the records are added up starts with zeros. -/
lemma start_eq (shared : commonShape (rs.length :: r₁) (rs.length :: r₂) = some (rs.length :: row)) :
    ∃ cells, (firsts rs).zipWith (fun _ _ => (⟨0, 0⟩ : Quadratures ℚ)) (seconds rs) = .ok (repeated rs.length row cells) ∧
      Sums row ([] : List (Record r₁ r₂)) cells := by
  refine ⟨List.replicate (volume row) ⟨0, 0⟩, ?_, ?_⟩
  · obtain ⟨first, second⟩ := fits_of_joined shared
    have left : (rs.map (·.first)).flatten.length = volume (rs.length :: r₁) := by
      simp [volume_cons, length_flatten, Function.comp_def, Record.first_whole]
    have right : (rs.map (·.second)).flatten.length = volume (rs.length :: r₂) := by
      simp [volume_cons, length_flatten, Function.comp_def, Record.second_whole]
    have zeros (xs ys : List ℚ) (xSize : xs.length = volume (rs.length :: row)) (ySize : ys.length = volume (rs.length :: row)) :
        List.zipWith (fun _ _ => (⟨0, 0⟩ : Quadratures ℚ)) xs ys =
          (List.replicate rs.length (List.replicate (volume row) ⟨0, 0⟩)).flatten := by
      rw [flatten_replicate_replicate, eq_replicate_iff, length_zipWith, xSize, ySize, min_self]
      refine ⟨rfl, fun s member => ?_⟩
      obtain ⟨i, inside, rfl⟩ := mem_iff_getElem.mp member
      simp
    rw [commonShape] at shared
    simp only [Tensor.zipWith, firsts, seconds, shared, repeated]
    rw [zeros _ _ (first.length_spread (left.trans (volume_padded _ _).symm))
      (second.length_spread (right.trans (volume_padded _ _).symm))]
  · have none : sumAt row ([] : List (Record r₁ r₂)) = fun _ => 0 := rfl
    simp [Sums, none, Quadratures.complex]

lemma map_repeated {β γ : Type} (f : β → γ) (n : ℕ) (row : List ℕ) (cells : List β) :
    (repeated n row cells).map f = repeated n row (cells.map f) := by
  simp [Tensor.map, repeated]

/-- The mean of a cycle, by its complex numbers. -/
def Means (row : List ℕ) (rs : List (Record r₁ r₂)) (cells : List (Quadratures ℚ)) : Prop :=
  cells.map Quadratures.complex = (List.range (volume row)).map fun i => 1 / (rs.length : ℂ) * sumAt row rs i

lemma averaged_eq (some : rs ≠ []) (common : Common r₁ r₂ row)
    (shared : commonShape (rs.length :: r₁) (rs.length :: r₂) = .some (rs.length :: row)) :
    ∃ cells, averaged rs = .ok (⟨row, cells.map (·.re)⟩, ⟨row, cells.map (·.im)⟩) ∧ Means row rs cells := by
  obtain ⟨zeros, start, sums⟩ := start_eq shared
  obtain ⟨cells, added, sums⟩ := foldlM_addRecords common (rs.nil_append).symm sums
  have positive := length_pos_iff.mpr some
  refine ⟨cells.map fun s => ⟨s.re / rs.length, s.im / rs.length⟩, ?_, ?_⟩
  · rw [length_nil] at added
    simp only [averaged, average, start, cycle, Value.items, Outcome.ok_bind, Quantity.zero_eq, added, map_repeated, length_map,
      Quantity.ofInt_eq, Int.cast_natCast, record_repeated positive ((length_map _).trans sums.length), map_map]
    rfl
  · have scaled (s : Quadratures ℚ) : (⟨s.re / rs.length, s.im / rs.length⟩ : Quadratures ℚ).complex =
        1 / rs.length * s.complex := by
      simp only [Quadratures.complex]
      push_cast
      ring
    have all := congrArg (List.map fun z => 1 / (rs.length : ℂ) * z) sums
    simpa [Means, Function.comp_def, scaled] using all

/-- As many records with turned sums have a turned mean. -/
lemma averaged_of_sums {rs' : List (Record r₁ r₂)} {cells : List (Quadratures ℚ)} (some : rs ≠ []) (common : Common r₁ r₂ row)
    (shared : commonShape (rs.length :: r₁) (rs.length :: r₂) = .some (rs.length :: row)) (means : Means row rs cells)
    (count : rs'.length = rs.length) {u : ℂ} {t : Quadratures ℚ → Quadratures ℚ}
    (sums : ∀ i, sumAt row rs' i = u * sumAt row rs i)
    (turned : ∀ c, (t c).complex = u * c.complex) :
    averaged rs' = .ok (⟨row, cells.map fun c => (t c).re⟩, ⟨row, cells.map fun c => (t c).im⟩) := by
  have some' : rs' ≠ [] := by
    rintro rfl
    exact some (length_eq_zero_iff.mp count.symm)
  obtain ⟨cells', told, means'⟩ := averaged_eq some' common (count.symm ▸ shared)
  obtain rfl : cells' = cells.map t := by
    refine List.map_injective_iff.mpr Quadratures.complex_injective ?_
    have all := congrArg (List.map fun z => u * z) means
    rw [means', count]
    simp only [sums, mul_left_comm _ u]
    simpa [Function.comp_def, turned] using all.symm
  simpa [Function.comp_def] using told

end

/-- A cycle over records of any shape gives in each cell of a row the mean of the complex samples, each turned by the unit that
its entry names. A quarter turn of all entries is a quarter turn of the mean, and a new order of the entries and their
records does not matter. -/
theorem cycle_mean_is_turned_sum {rs : List (Record r₁ r₂)} {shape : List ℕ} (some : rs ≠ [])
    (shared : commonShape (rs.length :: r₁) (rs.length :: r₂) = .some shape) :
    ∃ (row : List ℕ) (cells : List (Quadratures ℚ)), shape = rs.length :: row ∧
      (r₁ = r₂ → row = r₁ ∧ ∀ r ∈ rs, widened r₁ row r.first = r.first ∧ widened r₂ row r.second = r.second) ∧
      averaged rs = .ok (⟨row, cells.map Quadratures.re⟩, ⟨row, cells.map Quadratures.im⟩) ∧
      cells.map Quadratures.complex = (List.range (volume row)).map (fun i =>
        1 / (rs.length : ℂ) * (rs.map fun r => r.unit * r.sample row i).sum) ∧ (∀ rs', Forall₂ Record.Turned rs rs' →
        averaged rs' = .ok (⟨row, cells.map fun c => -c.im⟩, ⟨row, cells.map Quadratures.re⟩)) ∧
      ∀ rs', rs'.Perm rs → averaged rs' = averaged rs := by
  obtain ⟨row, rfl, common⟩ := commonShape_cons shared
  obtain ⟨cells, told, means⟩ := averaged_eq some common shared
  refine ⟨row, cells, rfl, ?_, told, means, fun rs' turned => ?_, fun rs' perm => ?_⟩
  · rintro rfl
    obtain rfl : r₁ = row := by
      rw [commonShape_self] at shared
      exact (List.cons.inj (Option.some.inj shared)).2
    refine ⟨rfl, fun r _ => ?_⟩
    rw [widened, widened, padded_self]
    exact ⟨spread_self r.first_whole, spread_self r.second_whole⟩
  · refine averaged_of_sums some common shared means turned.length_eq.symm (u := I) (t := fun c => ⟨-c.im, c.re⟩)
      (fun i => ?_) fun c => ?_
    · clear * - turned
      induction turned with
      | nil => simp [sumAt]
      | @cons r r' rs rs' here _ ih =>
        simp only [sumAt, map_cons, sum_cons, mul_add] at ih ⊢
        rw [ih, here.unit, Record.sample, Record.sample, here.first, here.second, mul_assoc]
    · simp only [Quadratures.complex]
      push_cast
      linear_combination -(c.im : ℂ) * I_mul_I
  · rw [told]
    exact averaged_of_sums some common shared means perm.length_eq (fun i => (perm.map _).sum_eq.trans (one_mul _).symm)
      fun c => (one_mul _).symm

/-- Two records, the second turned by a quarter, in arrays of which one has to be stretched. -/
def pair : List (Record [1] [2]) :=
  [⟨"+x", 1, by simp [units], [1], [3, 4], rfl, rfl⟩, ⟨"+i", I, by simp [units], [2], [5, 6], rfl, rfl⟩]

theorem cycle_mean_of_two :
    commonShape [2, 1] [2, 2] = some [2, 2] ∧ ∃ (row : List ℕ) (cells : List (Quadratures ℚ)), [2, 2] = 2 :: row ∧
      averaged pair = .ok (⟨row, cells.map Quadratures.re⟩, ⟨row, cells.map Quadratures.im⟩) ∧
      cells.map Quadratures.complex = (List.range (volume row)).map (fun i =>
        1 / (2 : ℕ) * (pair.map fun r => r.unit * r.sample row i).sum) := by
  have shared : commonShape [2, 1] [2, 2] = some [2, 2] := by decide
  obtain ⟨row, cells, shape, -, told, mean, -⟩ := @cycle_mean_is_turned_sum _ _ pair _ (cons_ne_nil _ _) shared
  exact ⟨shared, row, cells, shape, told, mean⟩

end EprBench.Pulser.Cycle
