import EprBench.Proofs.Magnet.Guesses

/-! When a search for a centre field comes to an end: nothing but a place that is found ends it. -/
namespace EprBench.Magnet

open Quantity Outcome

variable {depth added : ℕ}

/-! ### Walks -/

/-- The walk can go on from here. -/
def Open (step : ℚ) (up : Bool) (place : ℚ × ℚ) : Prop :=
  if up then place.2 < 4095 ∧ -50 < place.1 - step / 2 else 0 < place.2 ∧ place.1 + step / 2 < 23000

instance (step : ℚ) (up : Bool) (place : ℚ × ℚ) : Decidable (Open step up place) := inferInstanceAs (Decidable (ite _ _ _))

/-- The walk stays here: it has come to an end, or the centre field is near enough to its grid. -/
def AtRest (step : ℚ) (up : Bool) (tolerance : ℤ) (place : ℚ × ℚ) : Prop :=
  Open step up place → gridSteps |place.1| ≤ tolerance

def onward (step : ℚ) (up : Bool) (place : ℚ × ℚ) : ℚ × ℚ :=
  if up then (place.1 - step, place.2 + 1) else (place.1 + step, place.2 - 1)

variable {step : ℚ} {up : Bool} {tolerance : ℤ} {place : ℚ × ℚ}

lemma walk_succ (n : ℕ) : walk step up tolerance (n + 1) place =
    if Open step up place ∧ tolerance < gridSteps |place.1| then walk step up tolerance n (onward step up place)
    else .ok place := by
  obtain ⟨centre, address⟩ := place
  have halved : half * step = step / 2 := by
    rw [half_eq]
    ring
  have inside : (if up then lt address (ofInt maxAddress) && lt minField (centre - half * step)
      else lt zero address && lt (centre + half * step) maxField) = decide (Open step up (centre, address)) := by
    rw [halved]
    cases up <;> simp [Open, maxAddress]
  have next : (if up then (centre - step, address + ofInt 1) else (centre + step, address - ofInt 1)) =
      onward step up (centre, address) := by
    cases up <;> simp [onward]
  have rest : gridRest (Quantity.abs centre) = .ok (gridSteps |centre|) := gridRest_eq _
  rw [walk, inside, next, rest]
  by_cases further : Open step up (centre, address)
  · simp only [further, decide_true, Bool.not_true, Bool.false_eq_true, if_false, true_and]
    rw [ok_bind]
    by_cases near : gridSteps |centre| ≤ tolerance
    · rw [if_pos near, if_neg (not_lt.mpr near)]
      rfl
    · rw [if_neg near, if_pos (not_le.mp near)]
  · simp only [further, decide_false, Bool.not_false, if_true, false_and, if_false]
    rfl

lemma walk_of_atRest (rest : AtRest step up tolerance place) (n : ℕ) : walk step up tolerance n place = .ok place := by
  cases n with
  | zero => rfl
  | succ n =>
    rw [walk_succ, if_neg]
    rintro ⟨further, off⟩
    exact absurd (rest further) (not_le.mpr off)

lemma walk_rests {n : ℕ} (enough : if up then 4095 < place.2 + n else place.2 < n) :
    ∃ place', walk step up tolerance n place = .ok place' ∧ AtRest step up tolerance place' := by
  induction n generalizing place with
  | zero =>
    refine ⟨place, rfl, fun further => ?_⟩
    cases up
    all_goals
      simp only [Open, if_true, if_false, Bool.false_eq_true] at further enough
      push_cast at enough
      linarith [further.1]
  | succ n ih =>
    rw [walk_succ]
    split
    · refine ih ?_
      cases up
      all_goals
        simp only [onward, if_true, if_false, Bool.false_eq_true] at enough ⊢
        push_cast at enough ⊢
        linarith
    · rename_i stays
      exact ⟨place, rfl, fun further => not_lt.mp fun off => stays ⟨further, off⟩⟩

/-! ### Searches -/

/-- A sweep address that is not at an end, with a sweep that stays in the field range. -/
def Usable (width : ℚ) (place : ℚ × ℚ) : Prop := (0 < place.2 ∧ place.2 < 4095) ∧ Fits place.1 width

instance (width : ℚ) (place : ℚ × ℚ) : Decidable (Usable width place) := inferInstanceAs (Decidable (_ ∧ _))

/-- A place that a search accepts, with the sweep that is set. -/
structure Spot where
  width : ℚ
  step : ℚ
  centre : ℚ
  address : ℚ
  first : 0 ≤ address
  last : address ≤ 4095
  low : -50 ≤ centre - step / 2
  high : centre + step / 2 ≤ 23000

namespace Spot

variable (s : Spot)

def search (depth : ℕ) (up : Bool) (tolerance : ℤ) : Outcome ℕ := bestFit s.width s.step s.centre s.address depth up tolerance

/-- The address at which a walk ends. -/
def edge (up : Bool) : ℚ := if up then 4095 else 0

/-- The walk has no way to go, or it leads to a place that can be used. -/
def Found (up : Bool) (tolerance : ℤ) : Prop :=
  s.address = edge up ∨ ∃ place, walk s.step up tolerance addressCount (s.centre, s.address) = .ok place ∧ Usable s.width place

lemma walk_rests (up : Bool) (tolerance : ℤ) :
    ∃ place, walk s.step up tolerance addressCount (s.centre, s.address) = .ok place ∧ AtRest s.step up tolerance place := by
  refine Magnet.walk_rests ?_
  have first := s.first
  have last := s.last
  cases up
  all_goals
    simp only [addressCount, if_true, if_false, Bool.false_eq_true]
    push_cast
    linarith

def turn (depth : ℕ) (up : Bool) (tolerance : ℤ) : Outcome ℕ := do
  let added ← s.search depth (!up) tolerance
  if ¬ Usable s.width (s.centre, s.address) ∨ maxAddedSteps ≤ added then
    let _ ← s.search depth up (tolerance + 1)
  return added

lemma search_succ (depth : ℕ) (up : Bool) (tolerance : ℤ) {place : ℚ × ℚ}
    (walked : walk s.step up tolerance addressCount (s.centre, s.address) = .ok place) :
    s.search (depth + 1) up tolerance = if s.address = edge up then .ok maxAddedSteps
      else if Usable s.width place then .ok 0 else s.turn depth up tolerance := by
  have halved : half * s.step = s.step / 2 := by
    rw [half_eq]
    ring
  have accepted : (addressOk s.address && le minField (s.centre - half * s.step) && le (s.centre + half * s.step) maxField) =
      true := by
    rw [halved]
    have first := s.first
    have last := s.last
    have low := s.low
    have high := s.high
    simp only [addressOk, le_eq, zero_eq, maxAddress_eq, minField_eq, maxField_eq, Bool.and_eq_true, decide_eq_true_eq]
    exact ⟨⟨⟨first, last⟩, low⟩, high⟩
  have ended : (le s.address (if up then ofInt maxAddress else zero) && le (if up then ofInt maxAddress else zero) s.address) =
      decide (s.address = edge up) := by
    rw [zero_eq, maxAddress_eq]
    simp [edge, le_antisymm_iff]
  have bad (place : ℚ × ℚ) : (le place.2 zero || le (ofInt maxAddress) place.2 || sweepLeaves place.1 s.width) =
      !decide (Usable s.width place) := by
    rw [Bool.eq_iff_iff, zero_eq, maxAddress_eq]
    simp only [le_eq, Bool.or_eq_true, decide_eq_true_eq, Bool.not_eq_true', decide_eq_false_iff_not, Usable, fits_iff,
      not_and_or, not_lt, Bool.not_eq_false]
  rw [search, bestFit, accepted]
  simp only [ensure, if_true, ok_bind, ended, decide_eq_true_eq, walked, bad place, bad (s.centre, s.address),
    Bool.not_eq_false', Bool.or_eq_true, Bool.not_eq_true', decide_eq_false_iff_not, ge_iff_le]
  rfl

variable {s}

lemma search_of_found (found : s.Found up tolerance) (depth : ℕ) :
    ∃ added, s.search (depth + 1) up tolerance = .ok added ∧ (s.address ≠ edge up → added = 0) := by
  obtain ⟨place, walked, -⟩ := s.walk_rests up tolerance
  rw [s.search_succ depth up tolerance walked]
  split
  · rename_i ended
    exact ⟨_, rfl, fun other => absurd ended other⟩
  · rename_i other
    obtain ⟨place', walked', usable⟩ := found.resolve_left other
    obtain rfl := Except.ok.inj (walked.symm.trans walked')
    exact ⟨0, if_pos usable, fun _ => rfl⟩

lemma search_of_not_found (lost : ¬ s.Found up tolerance) (depth : ℕ) :
    s.search (depth + 1) up tolerance = s.turn depth up tolerance := by
  obtain ⟨place, walked, -⟩ := s.walk_rests up tolerance
  obtain ⟨away, astray⟩ := not_or.mp lost
  rw [s.search_succ depth up tolerance walked, if_neg away, if_neg fun usable => astray ⟨place, walked, usable⟩]

lemma turn_eq_ok : s.turn depth up tolerance = .ok added ↔ s.search depth (!up) tolerance = .ok added ∧
      (¬ Usable s.width (s.centre, s.address) ∨ maxAddedSteps ≤ added → ∃ n, s.search depth up (tolerance + 1) = .ok n) := by
  rw [turn, bind_eq_ok]
  constructor
  · rintro ⟨n, back, rest⟩
    split at rest
    · obtain ⟨k, more, same⟩ := bind_eq_ok.mp rest
      obtain rfl := pure_eq_ok.mp same
      exact ⟨back, fun _ => ⟨k, more⟩⟩
    · rename_i enough
      obtain rfl := pure_eq_ok.mp rest
      exact ⟨back, fun again => absurd again enough⟩
  · rintro ⟨back, more⟩
    refine ⟨added, back, ?_⟩
    split
    · rename_i again
      obtain ⟨k, done⟩ := more again
      exact bind_eq_ok.mpr ⟨k, done, rfl⟩
    · rfl

lemma search_eq_error {e : Fault} (failed : s.search depth up tolerance = .error e) : e = .endless := by
  induction depth generalizing up tolerance e with
  | zero => exact (Except.error.inj failed).symm
  | succ depth ih =>
    by_cases found : s.Found up tolerance
    · obtain ⟨added, done, -⟩ := search_of_found found depth
      rw [done] at failed
      cases failed
    · rw [search_of_not_found found, turn] at failed
      rcases back : s.search depth (!up) tolerance with e' | n
      · rw [back] at failed
        exact Except.error.inj failed ▸ ih back
      rw [back, ok_bind] at failed
      split at failed
      · rcases again : s.search depth up (tolerance + 1) with e' | k
        · rw [again] at failed
          exact Except.error.inj failed ▸ ih again
        · rw [again] at failed
          cases failed
      · cases failed

lemma search_eq_zero (inside : 0 < s.address ∧ s.address < 4095)
    (done : s.search depth up tolerance = .ok added) : added = 0 := by
  induction depth generalizing up tolerance added with
  | zero => cases done
  | succ depth ih =>
    by_cases found : s.Found up tolerance
    · obtain ⟨n, same, none⟩ := search_of_found found depth
      obtain rfl := Except.ok.inj (same.symm.trans done)
      refine none ?_
      cases up
      · exact inside.1.ne'
      · exact inside.2.ne
    · rw [search_of_not_found found, turn_eq_ok] at done
      exact ih done.1

/-! ### Ends -/

/-- Tolerance by tolerance the way back finds a place until the way itself does; or the way back does at once, and the place to
start from can be used. -/
def Settles (s : Spot) (up : Bool) (tolerance : ℤ) : Prop :=
  Usable s.width (s.centre, s.address) ∧ s.Found (!up) tolerance ∨
    ∃ last, tolerance ≤ last ∧ s.Found up last ∧ ∀ t, tolerance ≤ t → t < last → s.Found (!up) t

lemma settles_of_search (done : s.search depth up tolerance = .ok added) : s.Settles up tolerance := by
  induction depth using Nat.strong_induction_on generalizing up tolerance added with
  | _ depth ih =>
    cases depth with
    | zero => cases done
    | succ depth =>
      by_cases found : s.Found up tolerance
      · exact .inr ⟨tolerance, le_rfl, found, fun t from_ before => by omega⟩
      rw [search_of_not_found found, turn_eq_ok] at done
      obtain ⟨back, again⟩ := done
      by_cases returns : s.Found (!up) tolerance
      · by_cases usable : Usable s.width (s.centre, s.address)
        · exact .inl ⟨usable, returns⟩
        · obtain ⟨n, more⟩ := again (Or.inl usable)
          obtain ⟨usable', -⟩ | ⟨last, from_, here, before⟩ := ih depth (by omega) more
          · exact absurd usable' usable
          · refine .inr ⟨last, by omega, here, fun t start stop => ?_⟩
            rcases start.eq_or_lt with rfl | later
            · exact returns
            · exact before t (by omega) stop
      · -- The way back has turned round as well, so the same search ended further inside.
        cases depth with
        | zero => cases back
        | succ depth =>
          rw [search_of_not_found returns, turn_eq_ok, Bool.not_not] at back
          exact ih depth (by omega) back.1

lemma search_of_reach {last : ℤ} (found : s.Found up last) {n : ℕ} (steps : last = tolerance + n) (deep : n + 1 < depth)
    (back : ∀ t, tolerance ≤ t → t < last → s.Found (!up) t) : ∃ added, s.search depth up tolerance = .ok added := by
  induction n generalizing depth tolerance with
  | zero =>
    obtain ⟨depth, rfl⟩ := Nat.exists_eq_succ_of_ne_zero (by omega : depth ≠ 0)
    rw [Nat.cast_zero, add_zero] at steps
    obtain ⟨added, done, -⟩ := search_of_found (steps ▸ found) depth
    exact ⟨added, done⟩
  | succ n ih =>
    obtain ⟨depth, rfl⟩ := Nat.exists_eq_succ_of_ne_zero (by omega : depth ≠ 0)
    by_cases here : s.Found up tolerance
    · obtain ⟨added, done, -⟩ := search_of_found here depth
      exact ⟨added, done⟩
    obtain ⟨deeper, rfl⟩ := Nat.exists_eq_succ_of_ne_zero (by omega : depth ≠ 0)
    push_cast at steps
    obtain ⟨added, returned, -⟩ := search_of_found (back tolerance le_rfl (by omega)) deeper
    refine ⟨added, ?_⟩
    rw [search_of_not_found here, turn_eq_ok]
    exact ⟨returned, fun _ => ih (by omega) (by omega) fun t start stop => back t (by omega) stop⟩

lemma search_of_return (usable : Usable s.width (s.centre, s.address)) (found : s.Found (!up) tolerance)
    (deep : 1 < depth) : ∃ added, s.search depth up tolerance = .ok added := by
  obtain ⟨depth, rfl⟩ := Nat.exists_eq_succ_of_ne_zero (by omega : depth ≠ 0)
  obtain ⟨deeper, rfl⟩ := Nat.exists_eq_succ_of_ne_zero (by omega : depth ≠ 0)
  by_cases here : s.Found up tolerance
  · obtain ⟨added, done, -⟩ := search_of_found here _
    exact ⟨added, done⟩
  obtain ⟨added, returned, -⟩ := search_of_found found deeper
  refine ⟨added, ?_⟩
  rw [search_of_not_found here, turn_eq_ok]
  obtain rfl := search_eq_zero usable.1 returned
  exact ⟨returned, fun again => again.elim (fun other => absurd usable other) fun many => absurd many (by decide)⟩

/-! ### Large tolerances -/

lemma gridSteps_lt (x : ℚ) : gridSteps x < 50 := Int.emod_lt_of_pos _ (by norm_num)

lemma found_iff_of_near (near : gridSteps |s.centre| ≤ tolerance) :
    s.Found up tolerance ↔ s.address = edge up ∨ Usable s.width (s.centre, s.address) := by
  have rest : AtRest s.step up tolerance (s.centre, s.address) := fun _ => near
  rw [Found, walk_of_atRest rest addressCount]
  refine or_congr_right ⟨?_, fun usable => ⟨_, rfl, usable⟩⟩
  rintro ⟨place, same, usable⟩
  exact Except.ok.inj same ▸ usable

lemma found_of_le {t t' : ℤ} (large : 49 ≤ t) (le : t ≤ t') (found : s.Found up t') : s.Found up t := by
  have steps := gridSteps_lt |s.centre|
  rw [found_iff_of_near (by omega)] at found ⊢
  exact found

lemma search_of_settles (settles : s.Settles up tolerance) (nonneg : 0 ≤ tolerance) (deep : searchDepth ≤ depth) :
    ∃ added, s.search depth up tolerance = .ok added := by
  rw [searchDepth] at deep
  obtain ⟨usable, returns⟩ | ⟨last, start, found, back⟩ := settles
  · exact search_of_return usable returns (by omega)
  · by_cases few : last ≤ tolerance + 49
    · obtain ⟨n, steps⟩ := Int.le.dest start
      exact search_of_reach found steps.symm (by omega) back
    · refine search_of_reach (n := 49) (found_of_le (t := tolerance + 49) (by omega) (by omega) found) rfl (by omega) ?_
      exact fun t start stop => back t start (by omega)

lemma exists_search_of_settles (settles : s.Settles up tolerance) : ∃ depth added, s.search depth up tolerance = .ok added := by
  obtain ⟨usable, returns⟩ | ⟨last, start, found, back⟩ := settles
  · exact ⟨2, search_of_return usable returns (by omega)⟩
  · obtain ⟨n, steps⟩ := Int.le.dest start
    exact ⟨n + 2, search_of_reach found steps.symm (by omega) back⟩

lemma search_of_not_settles (never : ¬ s.Settles up tolerance) (depth : ℕ) :
    s.search depth up tolerance = .error .endless := by
  rcases ran : s.search depth up tolerance with e | added
  · rw [search_eq_error ran]
  · exact absurd (settles_of_search ran) never

lemma not_settles_of_near (near : gridSteps |s.centre| ≤ tolerance) (inside : 0 < s.address ∧ s.address < 4095)
    (leaves : ¬ Fits s.centre s.width) : ¬ s.Settles up tolerance := by
  rintro (⟨usable, -⟩ | ⟨last, start, found, -⟩)
  · exact leaves usable.2
  · rw [found_iff_of_near (near.trans start)] at found
    rcases found with ended | usable
    · cases up
      · exact inside.1.ne' ended
      · exact inside.2.ne ended
    · exact leaves usable.2

end Spot

/-- Every walk of a search comes to rest. The search ends if and only if tolerance by tolerance the way back finds a place until
the way itself does, or the way back does at once from a place that can be used. Then a depth of `searchDepth` is enough, and
otherwise none is. -/
theorem search_ends_iff_settles (s : Spot) (up : Bool) (tolerance : ℤ) :
    (∃ place, walk s.step up tolerance addressCount (s.centre, s.address) = .ok place ∧ AtRest s.step up tolerance place) ∧
      ((∃ depth added, bestFit s.width s.step s.centre s.address depth up tolerance = .ok added) ↔ s.Settles up tolerance) ∧
      (0 ≤ tolerance → s.Settles up tolerance →
        ∃ added, bestFit s.width s.step s.centre s.address searchDepth up tolerance = .ok added) ∧
      (¬ s.Settles up tolerance → ∀ depth, bestFit s.width s.step s.centre s.address depth up tolerance = .error .endless) := by
  refine ⟨s.walk_rests up tolerance, ⟨?_, Spot.exists_search_of_settles⟩, fun nonneg settles =>
    Spot.search_of_settles settles nonneg le_rfl, Spot.search_of_not_settles⟩
  rintro ⟨depth, added, done⟩
  exact Spot.settles_of_search done

/-- A centre field off its grid, two addresses from the end of the way up. -/
def lateSpot : Spot where
  width := 41
  step := 41 / 4095
  centre := 348003 / 100
  address := 4093
  first := by norm_num
  last := by norm_num
  low := by norm_num
  high := by norm_num

/-- The way up ends before a place is found, the way down finds one. -/
theorem late_search_ends : ¬ lateSpot.Found true 2 ∧ lateSpot.Settles true 2 ∧
    ∃ added, bestFit (41 : ℚ) (41 / 4095) (348003 / 100) 4093 searchDepth true 2 = .ok added := by
  have lost : ¬ lateSpot.Found true 2 := by
    rintro (ended | ⟨place, walked, usable⟩)
    · exact absurd ended (by decide +kernel)
    · have stop : walk (41 / 4095 : ℚ) true 2 addressCount (348003 / 100, 4093) = .ok (348003 / 100 - 82 / 4095, 4095) := by
        decide +kernel
      obtain rfl := Except.ok.inj (stop.symm.trans walked)
      exact absurd usable (by decide +kernel)
  have back : walk (41 / 4095 : ℚ) false 2 addressCount (348003 / 100, 4093) = .ok (348003 / 100 + 82 / 4095, 4091) := by
    decide +kernel
  have settles : lateSpot.Settles true 2 := Or.inl ⟨by decide +kernel, Or.inr ⟨_, back, by decide +kernel⟩⟩
  exact ⟨lost, settles, (search_ends_iff_settles lateSpot true 2).2.2.1 (by decide) settles⟩

def highSpot : Spot where
  width := 2666
  step := 2666 / 4095
  centre := 22000
  address := 2816
  first := by norm_num
  last := by norm_num
  low := by norm_num
  high := by norm_num

/-- After 22000 G the field 22500 G is not set: the search for a centre field goes on at every depth. -/
theorem search_never_ends :
    (perform (Call.set 22500).act (after [.set 22000] (fresh busLine) {}).1 (after [.set 22000] (fresh busLine) {}).2).1.1 =
        .error .endless ∧ (after [.set 22000, .set 22500] (fresh busLine) {}).1.width = some 2666 ∧
      (after [.set 22000, .set 22500] (fresh busLine) {}).1.address = some (.step 2816) ∧
      ∀ depth, bestFit (2666 : ℚ) (2666 / 4095) 22000 2816 depth true 2 = .error .endless := by
  have never : ¬ highSpot.Settles true 2 :=
    Spot.not_settles_of_near (by decide +kernel) ⟨by decide +kernel, by decide +kernel⟩ (by decide +kernel)
  exact ⟨by decide +kernel, by decide +kernel, by decide +kernel, Spot.search_of_not_settles never⟩

end EprBench.Magnet
