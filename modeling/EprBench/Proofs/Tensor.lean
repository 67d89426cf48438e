import EprBench.Proofs.Outcome
import EprBench.Tensor

/-! Arrays row by row: how they are cut into rows, picked from, and repeated to a common shape. -/
namespace EprBench.Tensor

open List

variable {α β : Type} {places : List ℕ} {n : ℕ} {rows : List (List α)} {xs : List α}

/-! ### Rows of arrays -/

lemma length_pieces (count length : ℕ) (xs : List α) : (pieces count length xs).length = count := by
  induction count generalizing xs with
  | zero => rfl
  | succ count ih => rw [pieces, length_cons, ih]

lemma pieces_flatten (even : ∀ row ∈ rows, row.length = n) : pieces rows.length n rows.flatten = rows := by
  induction rows with
  | nil => rfl
  | cons row rows ih =>
    obtain ⟨rfl, others⟩ := forall_mem_cons.mp even
    rw [length_cons, pieces, flatten_cons, take_left, drop_left, ih others]

lemma flatten_singles (xs : List α) : (xs.map fun x => [x]).flatten = xs := by
  rw [← flatMap_def, List.flatMap_singleton']

lemma pieces_one (xs : List α) : pieces xs.length 1 xs = xs.map fun x => [x] := by
  have cut := pieces_flatten (by simp : ∀ row ∈ xs.map fun x => [x], row.length = 1)
  rwa [flatten_singles, length_map] at cut

lemma columns_single (xs : List α) : columns xs.length [xs] = xs.map fun x => [x] := by
  induction xs with
  | nil => rfl
  | cons x xs ih => simpa [columns] using ih

lemma alongAxis_row {f : List α → List α} (keeps : (f xs).length = xs.length) : alongAxis f 0 [xs.length] xs = f xs := by
  have one : columns 1 (pieces xs.length 1 xs) = [xs] := by simp [columns, pieces_one, filterMap_map, Function.comp_def]
  change (columns xs.length ((columns 1 (pieces xs.length 1 xs)).map f)).flatten = _
  rw [one, map_singleton, ← keeps, columns_single, flatten_singles]

lemma alongAxis_rows {f : List α → List α} (keeps : ∀ xs, (f xs).length = xs.length)
    (even : ∀ row ∈ rows, row.length = n) : alongAxis f 1 [rows.length, n] rows.flatten = (rows.map f).flatten := by
  change ((pieces rows.length (n * 1) rows.flatten).map (alongAxis f 0 [n])).flatten = _
  rw [mul_one, pieces_flatten even]
  refine congrArg List.flatten (map_congr_left fun row member => ?_)
  rw [← even row member, alongAxis_row (keeps row)]

/-! ### Picking -/

lemma pickAll_cons (i : ℕ) (places : List ℕ) (xs : List α) :
    pickAll (i :: places) xs = (match xs[i]? with | some x => .ok x | none => .error .outOfRange : Outcome α) >>= fun y =>
      pickAll places xs >>= fun ys => pure (y :: ys) :=
  mapM_cons

lemma pickAll_eq (places : List ℕ) (xs : List α) :
    pickAll places xs = if ∀ i ∈ places, i < xs.length then .ok (places.filterMap (xs[·]?)) else .error .outOfRange := by
  induction places with
  | nil => rfl
  | cons i places ih =>
    rw [pickAll_cons, ih]
    by_cases inside : i < xs.length
    · simp only [getElem?_eq_getElem inside, forall_mem_cons, inside, true_and, Outcome.ok_bind, filterMap_cons]
      split <;> rfl
    · have beyond : ¬ ∀ j ∈ i :: places, j < xs.length := fun all => inside (all i mem_cons_self)
      rw [getElem?_eq_none (by omega), if_neg beyond]
      rfl

lemma pickAll_map (places : List ℕ) (f : α → β) (xs : List α) :
    pickAll places (xs.map f) = (pickAll places xs).map (List.map f) := by
  rw [pickAll_eq, pickAll_eq, length_map]
  split
  · simp [Except.map, map_filterMap]
  · rfl

lemma pickAll_snd {zs : List (α × ℕ)} (there : ∀ z ∈ zs, xs[z.2]? = some z.1) :
    pickAll (zs.map (·.2)) xs = .ok (zs.map (·.1)) := by
  induction zs with
  | nil => rfl
  | cons z zs ih =>
    obtain ⟨first, others⟩ := forall_mem_cons.mp there
    rw [map_cons, pickAll_cons, first, ih others]
    rfl

lemma take_row (places : List ℕ) (xs : List α) : take places 0 [xs.length] xs = pickAll places xs := by
  change (do return (← pickAll places (pieces xs.length 1 xs)).flatten : Outcome (List α)) = _
  rw [pieces_one, pickAll_map]
  cases pickAll places xs with
  | error e => rfl
  | ok ys => exact congrArg Except.ok (flatten_singles ys)

lemma take_rows {f g : β → List α} {bs : List β} (even : ∀ b ∈ bs, (f b).length = n)
    (picked : ∀ b ∈ bs, pickAll places (f b) = .ok (g b)) :
    take places 1 [bs.length, n] (bs.map f).flatten = .ok (bs.flatMap g) := by
  change (do return (← (pieces bs.length (n * 1) (bs.map f).flatten).mapM (take places 0 [n])).flatten : Outcome (List α)) = _
  have cut := pieces_flatten (by simpa using even : ∀ row ∈ bs.map f, row.length = n)
  rw [length_map] at cut
  rw [mul_one, cut, mapM_map, Outcome.mapM_ok fun b member => ?_]
  · rfl
  · rw [Function.comp_apply, ← even b member, take_row, picked b member]

/-! ### Common shapes -/

/-- Each axis is as long as the other one, or one long. -/
def Fits (own wide : List ℕ) : Prop := Forall₂ (fun d w => d = 1 ∨ d = w) own wide

lemma Fits.refl (shape : List ℕ) : Fits shape shape := forall₂_same.mpr fun _ _ => .inr rfl

lemma Fits.trans {own mid wide : List ℕ} (first : Fits own mid) (second : Fits mid wide) : Fits own wide := by
  induction first generalizing wide with
  | nil => exact second
  | cons one _ ih =>
    obtain ⟨w, rest, two, later, rfl⟩ := forall₂_cons_left_iff.mp second
    exact .cons (by omega) (ih later)

lemma fits_of_joined {a b shape : List ℕ} (common : joined a b = some shape) : Fits a shape ∧ Fits b shape := by
  induction a generalizing b shape with
  | nil =>
    cases b with
    | nil =>
      cases common
      exact ⟨.nil, .nil⟩
    | cons m ms => cases common
  | cons n ns ih =>
    cases b with
    | nil => cases common
    | cons m ms =>
      obtain ⟨rest, joins, common⟩ := Option.bind_eq_some_iff.mp common
      obtain ⟨first, second⟩ := ih joins
      split_ifs at common with same one <;> cases common
      · exact ⟨.cons (.inr rfl) first, .cons (by omega) second⟩
      · exact ⟨.cons (.inl one) first, .cons (.inr rfl) second⟩

lemma head_of_joined {n m : ℕ} {ns ms shape : List ℕ} (common : joined (n :: ns) (m :: ms) = some shape) :
    ∃ rest, shape = n :: rest ∨ shape = m :: rest := by
  obtain ⟨rest, -, common⟩ := Option.bind_eq_some_iff.mp common
  split_ifs at common <;> cases common
  · exact ⟨rest, .inl rfl⟩
  · exact ⟨rest, .inr rfl⟩

lemma Fits.joined_eq {own wide : List ℕ} (fits : Fits own wide) : joined wide own = some wide := by
  induction fits with
  | nil => rfl
  | cons one _ ih => simp [joined, ih, one.symm.imp_left Eq.symm]

lemma joined_self (shape : List ℕ) : joined shape shape = some shape := (Fits.refl shape).joined_eq

lemma padded_self (shape : List ℕ) : padded shape.length shape = shape := by simp [padded]

lemma padded_succ {rank : ℕ} {shape : List ℕ} (short : shape.length ≤ rank) :
    padded (rank + 1) shape = 1 :: padded rank shape := by
  rw [padded, padded, Nat.succ_sub short, replicate_succ, cons_append]

lemma volume_padded (rank : ℕ) (shape : List ℕ) : volume (padded rank shape) = volume shape := by
  rw [padded]
  induction rank - shape.length with
  | zero => rfl
  | succ more ih => exact (Nat.one_mul _).trans ih

lemma padded_cons {n rank : ℕ} {own : List ℕ} (short : own.length ≤ rank) :
    ∃ x xs, padded (rank + 1) (n :: own) = x :: xs ∧ (x = n ∨ x = 1 ∧ own.length < rank) := by
  rw [padded, length_cons, Nat.add_sub_add_right]
  rcases more : rank - own.length with _ | k
  · exact ⟨n, own, rfl, .inl rfl⟩
  · exact ⟨1, _, rfl, .inr ⟨rfl, by omega⟩⟩

/-- The rows of two arrays with as many rows fit a common shape of the arrays. -/
lemma fits_rows {n rank : ℕ} {own row : List ℕ} (short : own.length < rank)
    (fits : Fits (padded rank (n :: own)) (n :: row)) : own.length ≤ row.length ∧ Fits (padded row.length own) row := by
  have length : rank = row.length + 1 := by
    have := fits.length_eq
    simp only [padded, length_append, length_replicate, length_cons] at this
    omega
  subst length
  have padding : padded (row.length + 1) (1 :: own) = 1 :: padded row.length own := by
    rw [padded, padded, length_cons, Nat.add_sub_add_right, append_cons, ← List.replicate_succ',
      replicate_succ, cons_append]
  have narrow : Fits (padded (row.length + 1) (1 :: own)) (padded (row.length + 1) (n :: own)) :=
    rel_append (Fits.refl _) (.cons (.inl rfl) (Fits.refl own))
  have whole := narrow.trans fits
  rw [padding] at whole
  exact ⟨Nat.le_of_lt_succ short, (forall₂_cons.mp whole).2⟩

lemma length_flatten_pieces (f : List α → List β) {count length size : ℕ} (each : ∀ xs, xs.length = length → (f xs).length = size)
    (whole : xs.length = count * length) : ((pieces count length xs).map f).flatten.length = count * size := by
  induction count generalizing xs with
  | zero => simp [pieces]
  | succ count ih =>
    rw [Nat.succ_mul] at whole
    rw [pieces, map_cons, flatten_cons, length_append, ih (by rw [length_drop]; omega),
      each _ (by rw [length_take]; omega), Nat.succ_mul, Nat.add_comm]

lemma Fits.length_spread {own wide : List ℕ} (fits : Fits own wide) {xs : List α} (size : xs.length = volume own) :
    (spread own wide xs).length = volume wide := by
  induction fits generalizing xs with
  | nil => exact size
  | @cons d w own wide one _ ih =>
    have filled : ((pieces d (volume own) xs).map (spread own wide)).flatten.length = d * volume wide :=
      length_flatten_pieces _ (fun _ => ih) size
    rw [spread]
    change _ = w * volume wide
    split_ifs with same
    · rw [filled, same]
    · rw [length_flatten, map_replicate, sum_replicate, filled, one.resolve_right same, Nat.one_mul,
        smul_eq_mul]

/-- An array of one row is repeated in every row. -/
lemma spread_repeats {own wide : List ℕ} (n : ℕ) (size : xs.length = volume own) :
    spread (1 :: own) (n :: wide) xs = (List.replicate n (spread own wide xs)).flatten := by
  have one : ((pieces 1 (volume own) xs).map (spread own wide)).flatten = spread own wide xs := by
    simp [pieces, ← size]
  rw [spread]
  split_ifs with same
  · rw [one, ← same, replicate_one, flatten_singleton]
  · rw [one]

lemma zipWith_repeated {γ : Type} (f : α → β → γ) (n : ℕ) {xs : List α} {ys : List β} (same : xs.length = ys.length) :
    List.zipWith f (List.replicate n xs).flatten (List.replicate n ys).flatten =
      (List.replicate n (List.zipWith f xs ys)).flatten := by
  induction n with
  | zero => rfl
  | succ n ih =>
    rw [replicate_succ, replicate_succ, replicate_succ, flatten_cons, flatten_cons, flatten_cons,
      zipWith_append same, ih]

/-! ### An array of its own shape -/

lemma spread_self {shape : List ℕ} (size : xs.length = volume shape) : spread shape shape xs = xs := by
  induction shape generalizing xs with
  | nil => rfl
  | cons n shape ih =>
    rw [spread, if_pos rfl]
    change xs.length = n * volume shape at size
    induction n generalizing xs with
    | zero => simpa [pieces, eq_comm] using size
    | succ n again =>
      have first : (xs.take (volume shape)).length = volume shape := by
        rw [length_take, size]
        exact min_eq_left (Nat.le_mul_of_pos_left _ n.succ_pos)
      rw [pieces, map_cons, flatten_cons, ih first, again, take_append_drop]
      rw [length_drop, size, Nat.succ_mul, Nat.add_sub_cancel]

lemma fitted_self {shape : List ℕ} (size : xs.length = volume shape) : fitted shape ⟨shape, xs⟩ = .ok ⟨shape, xs⟩ := by
  simp only [fitted, padded_self, joined_self, if_true, spread_self size]

end EprBench.Tensor
