import EprBench.Proofs.Magnet.Guesses

/-! How near the field that is set comes to the one that is wanted, as long as no sweep is set up. -/
namespace EprBench.Magnet

open Quantity
open scoped Nat

namespace Controller

/-! ### What a controller holds -/

section Reading

variable {c : Controller ℚ} {S : Controller ℚ → Prop} {α β : Type} {R : β → Controller ℚ → Prop} {x : ℚ}

lemma perform_need {x : Controller ℚ → Option α} {a : α} (known : x c = some a) (f : α → Act (Controller ℚ) β) (b : Bench) :
    perform ((do need (x (← get))) >>= f) c b = perform (f a) c b := by
  rw [perform_bind, perform_get_bind, perform_lift, known]
  rfl

lemma ensures_known {x : Controller ℚ → Option α} {a : α} {f : α → Act (Controller ℚ) β} (known : x c = some a)
    (later : Ensures S R (f a) c) : Ensures S R ((do need (x (← get))) >>= f) c := by
  intro b
  rw [perform_need known]
  exact later b

end Reading

@[simp] lemma centreAddress_eq : (ofInt centreAddress : ℚ) = 2048 := by norm_num [centreAddress]

end Controller

/-! ### Fields and grids -/

variable {x : ℚ}

lemma exists_grid (x : ℚ) : ∃ k : ℤ, |x - k / 20 - restAbove x| ≤ 1 / 2000 := by
  refine ⟨nearestWhole (1000 * x) / 50, ?_⟩
  have split : (nearestWhole (1000 * x) : ℚ) = 50 * (nearestWhole (1000 * x) / 50 : ℤ) + gridSteps x := by
    exact_mod_cast (Int.mul_ediv_add_emod (nearestWhole (1000 * x)) 50).symm
  have near := abs_le.mp (abs_sub_nearestWhole_le (1000 * x))
  rw [restAbove, abs_le]
  constructor
  · linarith
  · linarith

lemma gridSteps_nonneg (x : ℚ) : 0 ≤ gridSteps x := Int.emod_nonneg _ (by norm_num)

lemma restAbove_nonneg (x : ℚ) : 0 ≤ restAbove x := div_nonneg (by exact_mod_cast gridSteps_nonneg x) (by norm_num)

lemma gridCentre_eq {k : ℤ} (near : |x - k / 20| < 1 / 40) : gridCentre x = k / 20 := by
  obtain ⟨above, below⟩ := abs_lt.mp near
  rw [gridCentre, nearestWhole_eq (n := k)]
  rw [abs_lt]
  constructor
  · linarith
  · linarith

lemma abs_gridCentre_sub_le (few : restAbove x ≤ 2 / 1000) : |gridCentre x - x| ≤ 1 / 400 := by
  obtain ⟨k, grid⟩ := exists_grid x
  obtain ⟨above, below⟩ := abs_le.mp grid
  have rest := restAbove_nonneg x
  rw [gridCentre_eq (k := k) (abs_lt.mpr ⟨by linarith, by linarith⟩), abs_le]
  constructor
  · linarith
  · linarith

lemma abs_aside_sub_le (x : ℚ) : |asideCentre x + gridWidth (4095 * restAbove x) / 4095 - x| ≤ 1 / 1000 := by
  obtain ⟨k, grid⟩ := exists_grid x
  obtain ⟨above, below⟩ := abs_le.mp grid
  obtain ⟨wider, narrower⟩ := abs_le.mp (abs_sub_gridWidth_le (4095 * restAbove x))
  rw [asideCentre, gridCentre_eq (k := k) (abs_lt.mpr ⟨by linarith, by linarith⟩), abs_le]
  constructor
  · linarith
  · linarith

lemma abs_abs_sub {s d : ℚ} (positive : 0 < s) :
    |(|d| - s * |(nearestWhole (d / s) : ℚ)|)| = |d - nearestWhole (d / s) * s| := by
  rcases le_or_gt 0 d with forth | back
  · have same : 0 ≤ nearestWhole (d / s) := le_nearestWhole (by rw [Int.cast_zero]; positivity)
    rw [abs_of_nonneg forth, abs_of_nonneg (Int.cast_nonneg same), mul_comm]
  · have same : nearestWhole (d / s) ≤ 0 := nearestWhole_le (by rw [Int.cast_zero]; exact (div_neg_of_neg_of_pos back positive).le)
    rw [abs_of_neg back, abs_of_nonpos (Int.cast_nonpos.mpr same), ← abs_neg]
    congr 1
    ring

namespace Guess

variable {centre diff width step : ℚ}

lemma exists_parts (guess : Guess centre diff width step) :
    ∃ (k : ℤ) (w : ℚ), width = gridWidth w ∧ 4095 * diff = k * w ∧ 0 ≤ k := by
  obtain ⟨m, -, part, -⟩ := guess.passes
  have factor := guess.one_le_factor
  refine ⟨⌈4095 * diff / 16000⌉ * m !, firstWidth diff / m !, by rw [guess.width_eq, part], ?_, ?_⟩
  · have factorial : (m ! : ℚ) ≠ 0 := by exact_mod_cast m.factorial_ne_zero
    rw [firstWidth]
    push_cast
    field_simp
  · have whole : 1 ≤ ⌈4095 * diff / 16000⌉ := by exact_mod_cast factor
    positivity

lemma abs_sub_le {d : ℚ} (guess : Guess centre |d| width step) : |d - nearestWhole (d / step) * step| ≤ 1 / 40 := by
  have positive := guess.step_pos
  have step_eq := guess.step_eq
  rcases le_or_gt width (819 / 4) with narrow | wide
  · -- Half a step of a narrow sweep is little enough.
    have half := abs_nearestWhole_mul_sub_le positive d
    rw [abs_sub_comm] at half
    linarith
  obtain ⟨k, w, rfl, parts, nonneg⟩ := guess.exists_parts
  obtain ⟨above, below⟩ := abs_le.mp (abs_sub_gridWidth_le w)
  have reach := guess.reach
  have few : k ≤ 2047 := by
    by_contra many
    have many : (2048 : ℚ) ≤ k := by exact_mod_cast not_le.mp many
    have long : 2048 * w ≤ k * w := mul_le_mul_of_nonneg_right many (by linarith)
    linarith
  -- As many steps as there were parts are near, in the one direction or the other.
  have signed : ∃ n : ℤ, |n| = k ∧ 4095 * d = n * w := by
    rcases abs_choice d with same | same
    · exact ⟨k, abs_of_nonneg nonneg, same ▸ parts⟩
    · refine ⟨-k, by rw [abs_neg, abs_of_nonneg nonneg], ?_⟩
      push_cast
      linarith
  obtain ⟨n, size, parts⟩ := signed
  calc |d - nearestWhole (d / step) * step|
      = |d / step - nearestWhole (d / step)| * step := (abs_div_sub_mul positive d _).symm
    _ ≤ |d / step - n| * step := mul_le_mul_of_nonneg_right (abs_sub_nearestWhole_le_abs_sub _ n) positive.le
    _ = |d - n * step| := abs_div_sub_mul positive d n
    _ = |(n : ℚ)| * |w - gridWidth w| / 4095 := by
      have same : d - n * step = n * (w - gridWidth w) / 4095 := by
        rw [step_eq]
        linarith
      rw [same, abs_div, abs_mul, abs_of_pos (show (0 : ℚ) < 4095 by norm_num)]
    _ ≤ 2047 * (1 / 20) / 4095 := by
      have count : |(n : ℚ)| ≤ 2047 := by
        rw [← Int.cast_abs, size]
        exact_mod_cast few
      gcongr
      exact abs_sub_gridWidth_le w
    _ ≤ 1 / 40 := by norm_num

end Guess

namespace Controller

variable {c c' c₀ : Controller ℚ} {y w h : Option ℚ} {a : Option (Address ℚ)}

/-! ### Controllers without a set-up sweep -/

structure Loose (c : Controller ℚ) : Prop where
  ready : c.ready = false
  centre : ∀ y ∈ c.centre, gridCentre y = y
  step : c.sweeping = true → ∃ h, c.step = some h ∧ 0 < h ∧ 4095 * h ≤ 16000

structure Stands (y : Option ℚ) (a : Option (Address ℚ)) (w h : Option ℚ) (c : Controller ℚ) : Prop extends Loose c where
  centre_eq : c.centre = y
  address_eq : c.address = a
  width_eq : c.width = w
  step_eq : c.step = h

lemma Loose.stands (loose : Loose c) : Stands c.centre c.address c.width c.step c := ⟨loose, rfl, rfl, rfl, rfl⟩

lemma Stands.frame (stands : Stands y a w h c) (setUp : c'.ready = c.ready ∧ c'.sweeping = c.sweeping)
    (same : c'.centre = c.centre ∧ c'.address = c.address ∧ c'.width = c.width ∧ c'.step = c.step) : Stands y a w h c' := by
  obtain ⟨ready, sweeping⟩ := setUp
  obtain ⟨centre, address, width, step⟩ := same
  refine ⟨⟨ready.trans stands.ready, ?_, ?_⟩, centre.trans stands.centre_eq, address.trans stands.address_eq,
    width.trans stands.width_eq, step.trans stands.step_eq⟩
  · rw [centre]
    exact stands.centre
  · rw [sweeping, step]
    exact stands.step

def held (c : Controller ℚ) : Option ℚ := do
  let y ← c.centre
  let a ← c.address
  let h ← c.step
  return y + (a.value - 2048) * h

lemma held_eq_some_iff {g : ℚ} : c.held = some g ↔
    ∃ y a h, c.centre = some y ∧ c.address = some a ∧ c.step = some h ∧ y + (a.value - 2048) * h = g := by
  simp [held, Option.bind_eq_some_iff]

lemma Stands.held_eq {y h : ℚ} {a : Address ℚ} (stands : Stands (some y) (some a) w (some h) c) :
    c.held = some (y + (a.value - 2048) * h) :=
  held_eq_some_iff.mpr ⟨y, a, h, stands.centre_eq, stands.address_eq, stands.step_eq, rfl⟩

/-- The field that is remembered is the one that belongs to what is held, as far as steps are counted from it. -/
def InStep (c : Controller ℚ) : Prop := c.sweeping = true → c.actual = c.held

instance (c : Controller ℚ) : Decidable c.InStep := inferInstanceAs (Decidable (_ → _))

def Near (x : ℚ) (c : Controller ℚ) : Prop := ∀ g ∈ c.held, |g - x| ≤ 1 / 200

/-! ### Single orders -/

lemma stands_setCentre (stands : Stands y a w h c) {z : ℚ} (grid : gridCentre z = z) :
    Ensures Loose (fun _ => Stands (some z) a w h) (setCentre z) c :=
  have loose : Loose { c with centre := some z, centred := true } :=
    ⟨stands.ready, fun _ same => Option.some.inj same ▸ grid, stands.step⟩
  Ensures.modify loose ⟨loose, rfl, stands.address_eq, stands.width_eq, stands.step_eq⟩

lemma stands_setWidth (stands : Stands y a w h c) (v : ℚ) : Ensures Loose (fun _ => Stands y a (some v) h) (setWidth v) c :=
  have loose : Loose { c with width := some v } := ⟨stands.ready, stands.centre, stands.step⟩
  Ensures.modify loose ⟨loose, stands.centre_eq, stands.address_eq, rfl, stands.step_eq⟩

lemma stands_setAddress (stands : Stands y a w h c) (n : Address ℚ) :
    Ensures Loose (fun _ => Stands y (some n) w h) (setAddress n) c :=
  have loose : Loose { c with address := some n } := ⟨stands.ready, stands.centre, stands.step⟩
  Ensures.modify loose ⟨loose, stands.centre_eq, rfl, stands.width_eq, stands.step_eq⟩

lemma stands_given (stands : Stands y a w h c) (o : Order ℚ) : Stands y a w h (c.given o) := by
  unfold given
  split
  · exact stands.frame ⟨rfl, rfl⟩ ⟨rfl, rfl, rfl, rfl⟩
  · exact stands

lemma stands_putAddress (stands : Stands y a w h c) (n : Address ℚ) :
    Ensures Loose (fun _ => Stands y a w h) (putAddress n) c := by
  refine (ensures_putAddress stands.toLoose (stands_given stands _).toLoose).mono ?_
  rintro _ _ rfl
  exact stands_given stands _

lemma stands_putCentre (stands : Stands y a w h c) (x : ℚ) :
    Ensures Loose (fun z s => z = gridCentre x ∧ Stands y a w h s) (putCentre x) c := by
  refine (ensures_putCentre stands.toLoose fun _ => (stands_given stands _).toLoose).mono ?_
  rintro _ _ ⟨rfl, -, rfl⟩
  exact ⟨rfl, stands_given stands _⟩

lemma stands_putWidth (stands : Stands y a w h c) (x : ℚ) :
    Ensures Loose (fun v s => v = gridWidth x ∧ Stands y a w (some (gridWidth x / 4095)) s) (putWidth x) c := by
  have swept (low : 0 ≤ x) (high : x ≤ 16000) : Stands y a w (some (gridWidth x / 4095)) (c.swept (gridWidth x)) := by
    refine ⟨⟨stands.ready, stands.centre, fun sweeping => ⟨_, rfl, ?_, ?_⟩⟩, stands.centre_eq, stands.address_eq,
      stands.width_eq, rfl⟩
    · have least : 0 ≤ gridWidth x := gridWidth_zero.symm.le.trans (gridWidth_mono low)
      exact div_pos (least.lt_of_ne' (of_decide_eq_true sweeping)) (by norm_num)
    · have most : gridWidth 16000 = 16000 := gridWidth_of_onGrid ⟨160000, by norm_num⟩
      rw [mul_div_cancel₀ _ (by norm_num)]
      exact (gridWidth_mono high).trans most.le
  refine (ensures_putWidth stands.toLoose fun low high => (stands_given (swept low high) _).toLoose).mono ?_
  rintro _ _ ⟨rfl, ⟨low, high⟩, rfl⟩
  exact ⟨rfl, stands_given (swept low high) _⟩

lemma stands_putZero (stands : Stands y a w h c) :
    Ensures Loose (fun v s => v = 0 ∧ Stands y a w (some 0) s) (putWidth zero) c := by
  have done := stands_putWidth stands zero
  rwa [zero_eq, gridWidth_zero, zero_div, ← zero_eq] at done

/-! ### The ways to set a field -/

lemma near_setAside (stands : Stands y a w h c) (x : ℚ) : Ensures Loose (fun _ => Near x) (setAside x (restAbove x)) c := by
  refine (stands_putCentre stands _).bind ?_
  rintro _ c ⟨rfl, stands⟩
  refine (stands_setCentre stands (gridCentre_gridCentre _)).bind fun _ c stands => ?_
  refine (stands_setAddress stands _).bind fun _ c stands => (stands_putAddress stands _).bind fun _ c stands => ?_
  refine (stands_putWidth stands _).bind ?_
  rintro _ c ⟨rfl, stands⟩
  refine (stands_setWidth stands _).mono fun _ c stands g here => ?_
  obtain rfl := Option.some.inj (stands.held_eq.symm.trans here)
  have one : (Address.step (centreAddress + 1) : Address ℚ).value - 2048 = 1 := by
    norm_num [Address.value, centreAddress]
  rw [one, one_mul, maxAddress_eq]
  exact (abs_aside_sub_le x).trans (by norm_num)

lemma Stands.near (stands : Stands (some (gridCentre x)) a w (some 0) c) (few : restAbove x ≤ 2 / 1000) : Near x c := by
  intro g here
  obtain ⟨y, n, h, centre, -, step, rfl⟩ := held_eq_some_iff.mp here
  obtain rfl := Option.some.inj (centre.symm.trans stands.centre_eq)
  obtain rfl := Option.some.inj (step.symm.trans stands.step_eq)
  rw [mul_zero, add_zero]
  exact (abs_gridCentre_sub_le few).trans (by norm_num)

lemma stands_noteDeviation (stands : Stands y a w h c) (x : ℚ) :
    Ensures Loose (fun _ => Stands y a w h) (noteDeviation x) c := by
  refine (ensures_theCentre stands.toLoose).bind ?_
  rintro _ c ⟨rfl, -⟩
  refine (ensures_need stands.toLoose).bind ?_
  rintro _ c ⟨rfl, -⟩
  refine (ensures_need stands.toLoose).bind ?_
  rintro _ c ⟨rfl, -⟩
  refine .get_bind (Ensures.ite (fun _ => ?_) fun _ => .pure stands.toLoose stands)
  have noted {d : ℚ} : Stands y a w h { c with deviation := d } := stands.frame ⟨rfl, rfl⟩ ⟨rfl, rfl, rfl, rfl⟩
  exact .modify noted.toLoose noted

lemma stands_updateActual (stands : Stands y a w h c) :
    Ensures Loose (fun _ s => Stands y a w h s ∧ ∃ g, s.actual = some g ∧ s.held = some g) updateActual c := by
  have read : Ensures Loose (fun g s => s = c ∧ c.held = some g) currentField c := by
    refine (ensures_theCentre stands.toLoose).bind ?_
    rintro y c ⟨rfl, centre⟩
    refine (ensures_need stands.toLoose).bind ?_
    rintro a c ⟨rfl, address⟩
    refine (ensures_need stands.toLoose).bind ?_
    rintro h c ⟨rfl, step⟩
    refine .pure stands.toLoose ⟨rfl, held_eq_some_iff.mpr ⟨y, a, h, centre, address, step, ?_⟩⟩
    rw [centreAddress_eq]
  refine read.bind ?_
  rintro g c ⟨rfl, held⟩
  have noted : Stands y a w h { c with actual := some g } := stands.frame ⟨rfl, rfl⟩ ⟨rfl, rfl, rfl, rfl⟩
  exact .modify noted.toLoose ⟨noted, g, rfl, held⟩

/-- How the field `g` comes about for a wanted one, from one state to another: by a sweep address alone, within the resolution,
or by a new sweep width, which is not taken back when the field is too high. -/
inductive Way (x g : ℚ) (c c' : Controller ℚ) : Prop where
  | address {h : ℚ} (sweeping : c.sweeping = true) (centre : c'.centre = c.centre) (width : c'.width = c.width)
      (kept : c'.step = c.step) (step : c.step = some h) (near : |g - x| < h / 100)
  | resolved (near : |g - x| ≤ 1 / 200)
  | guessed {y w h : ℚ} (centre : c.centre = some y) (guess : guessWidth y |x - y| = .ok (some (w, h)))
      (width : c'.width = some w) (low : x - 1 / 200 ≤ g) (high : g ≤ x + 1 / 40)

def Comes (x : ℚ) (c c' : Controller ℚ) : Prop := ∀ g ∈ c'.held, Way x g c c'

lemma Near.comes (near : Near x c) : Comes x c₀ c := fun g here => .resolved (near g here)

def Settled (x : ℚ) (c c' : Controller ℚ) : Prop :=
  ∃ g, c'.actual = some g ∧ c'.held = some g ∧ (InStep c → Way x g c c')

lemma settled_notes (loose : Loose c) (comes : InStep c₀ → Comes x c₀ c) :
    Ensures Loose (fun _ => Settled x c₀) (do
      checkLights
      noteDeviation x
      updateActual : Act (Controller ℚ) Unit) c := by
  refine (ensures_idle (idle_checkLights c) loose).bind ?_
  rintro _ c rfl
  refine (stands_noteDeviation loose.stands x).bind fun _ c' stands => (stands_updateActual stands).mono ?_
  rintro _ c' ⟨stands, g, actual, held⟩
  refine ⟨g, actual, held, fun inStep => ?_⟩
  have same : c'.held = c.held := by
    rw [Controller.held, Controller.held, stands.centre_eq, stands.address_eq, stands.step_eq]
  cases comes inStep g (same.symm.trans held) with
  | address sweeping centre width kept step near =>
    exact .address sweeping (stands.centre_eq.trans centre) (stands.width_eq.trans width) (stands.step_eq.trans kept) step near
  | resolved near => exact .resolved near
  | guessed centre guess width low high => exact .guessed centre guess (stands.width_eq.trans width) low high

lemma settled_setFirst (loose : Loose c) (x : ℚ) : Ensures Loose (fun _ => Settled x c₀) (setFirst x) c := by
  have known : Loose { c with actual := some x, known := true } := ⟨loose.ready, loose.centre, loose.step⟩
  refine (Ensures.modify (Q := fun _ => Loose) known known).bind fun _ c loose => ?_
  refine ensures_rest ?_
  refine .ite (fun few => ?_) fun _ => ?_
  · have few : restAbove x ≤ 2 / 1000 := by simpa [div_eq_mul_inv] using few
    refine (stands_putAddress loose.stands _).bind fun _ c stands => (stands_setAddress stands _).bind fun _ c stands => ?_
    refine (stands_putZero stands).bind ?_
    rintro _ c ⟨rfl, stands⟩
    refine (stands_setWidth stands _).bind fun _ c stands => (stands_putCentre stands _).bind ?_
    rintro _ c ⟨rfl, stands⟩
    refine (stands_setCentre stands (gridCentre_gridCentre _)).bind fun _ c stands => ?_
    exact settled_notes stands.toLoose fun _ => (stands.near few).comes
  · refine (stands_putZero loose.stands).bind ?_
    rintro _ c ⟨-, stands⟩
    exact (near_setAside stands x).bind_safe fun _ c loose near => settled_notes loose fun _ => near.comes

/-! ### A new sweep width -/

def guessedField (x y h : ℚ) : ℚ := y + nearestWhole ((x - y) / h) * h

lemma abs_guessedField_sub_le {y w h : ℚ} (guess : guessWidth y |x - y| = .ok (some (w, h))) :
    |guessedField x y h - x| ≤ 1 / 40 := by
  have near := (guess_of_guessWidth guess).abs_sub_le
  rw [abs_sub_comm] at near
  rwa [guessedField, show y + nearestWhole ((x - y) / h) * h - x = nearestWhole ((x - y) / h) * h - (x - y) by ring]

lemma resolution_eq : (resolution : ℚ) = 1 / 200 := by
  show (5 : ℚ) / 10 ^ 3 = 1 / 200
  norm_num

lemma value_add (n : Address ℚ) (k : ℤ) : (n.add k).value = n.value + k := by
  cases n with
  | step m => exact Int.cast_add m k
  | between z => rfl

lemma value_add_centre (n : ℤ) : (Address.add (.step centreAddress) n : Address ℚ).value - ofInt centreAddress = n := by
  rw [value_add]
  exact add_sub_cancel_left _ _

lemma stands_sweepAbout {y : ℚ} {n : Address ℚ} (stands : Stands (some y) a w h c) {v : ℚ} (width : OnGrid v) :
    Ensures Loose (fun _ => Stands (some y) a (some v) (some (v / 4095))) (do
      let _ ← putWidth zero
      setCentre (← putCentre y)
      putAddress n
      setWidth (← putWidth v) : Act (Controller ℚ) Unit) c := by
  have grid : gridCentre y = y := stands.centre y stands.centre_eq
  refine (stands_putZero stands).bind ?_
  rintro _ c ⟨-, stands⟩
  refine (stands_putCentre stands y).bind ?_
  rintro _ c ⟨rfl, stands⟩
  rw [grid]
  refine (stands_setCentre stands grid).bind fun _ c stands => (stands_putAddress stands _).bind fun _ c stands => ?_
  refine (stands_putWidth stands v).bind ?_
  rintro _ c ⟨rfl, stands⟩
  rw [gridWidth_of_onGrid width] at stands ⊢
  exact stands_setWidth stands v

lemma comes_changeWidth (loose : Loose c) (x : ℚ) : Ensures Loose (fun _ => Comes x c) (changeWidth x) c := by
  refine (ensures_theCentre loose).bind ?_
  rintro y c ⟨rfl, centre⟩
  refine .lift_bind loose fun guessed guess => ?_
  cases guessed with
  | none =>
    have still : Loose { c with sweeping := false } := ⟨loose.ready, loose.centre, by simp⟩
    refine (Ensures.modify (Q := fun _ => Loose) still still).bind fun _ c' loose => ?_
    refine ensures_rest ?_
    refine .ite (fun _ => (near_setAside loose.stands x).mono fun _ _ near => near.comes) fun few => ?_
    have few : restAbove x ≤ 1 / 1000 := by simpa using few
    refine (stands_putZero loose.stands).bind ?_
    rintro _ c' ⟨rfl, stands⟩
    refine (stands_setWidth stands _).bind fun _ c' stands => (stands_putCentre stands _).bind ?_
    rintro _ c' ⟨rfl, stands⟩
    refine (stands_setCentre stands (gridCentre_gridCentre _)).mono fun _ _ stands => ?_
    exact (stands.near (by linarith)).comes
  | some found =>
    obtain ⟨v, step⟩ := found
    have guessed := guess_of_guessWidth guess
    have step_eq := guessed.step_eq
    have width_le := guessed.width_le
    have swept : Loose { c with width := some v, step := some step, sweeping := true } :=
      ⟨loose.ready, loose.centre, fun _ => ⟨step, rfl, guessed.step_pos, by linarith⟩⟩
    refine (Ensures.modify (Q := fun _ => Stands (some y) c.address (some v) (some step)) swept
      ⟨swept, centre, rfl, rfl, rfl⟩).bind fun _ c' stands => ?_
    refine .lift_bind stands.toLoose fun q divided => .lift_bind stands.toLoose fun n rounded => ?_
    obtain rfl := Except.ok.inj ((quotient_of_pos guessed.step_pos _).symm.trans divided)
    obtain rfl := Except.ok.inj ((nearest_eq _).symm.trans rounded)
    refine (stands_setAddress stands _).bind fun _ c' stands => ?_
    refine (ensures_idle (idle_search _ _ _ c') stands.toLoose).bind ?_
    rintro _ c' rfl
    refine .ite (fun _ => ?_) fun fine => ?_
    · refine ensures_rest ?_
      refine (stands_putZero stands).bind ?_
      rintro _ c' ⟨-, stands⟩
      exact (near_setAside stands x).mono fun _ _ near => near.comes
    · -- Only fields that are too low are told from the wanted one.
      have reached : x - 1 / 200 ≤ guessedField x y step := by
        simp only [Bool.or_eq_true, not_or, Bool.not_eq_true] at fine
        have fine := fine.2
        rw [value_add_centre, lt_eq, decide_eq_false_iff_not, not_lt, resolution_eq] at fine
        rw [guessedField]
        linarith
      refine (stands_sweepAbout stands (onGrid_of_guessWidth guess)).mono fun _ c' stands g here => ?_
      obtain rfl := Option.some.inj (stands.held_eq.symm.trans here)
      rw [← centreAddress_eq, value_add_centre, ← step_eq]
      obtain ⟨-, high⟩ := abs_le.mp (abs_guessedField_sub_le guess)
      exact .guessed centre guess stands.width_eq reached (sub_le_iff_le_add'.mp high)

/-! ### A sweep address alone -/

lemma abs_sub_lt_of_fits {d h : ℚ} (positive : 0 < h)
    (fits : lt (Quantity.abs (Quantity.abs d - h * ofInt (nearestWhole (d / h)).natAbs)) (decimal 1 2 * h) = true) :
    |d - nearestWhole (d / h) * h| < h / 100 := by
  have off := of_decide_eq_true fits
  have size : (ofInt ((nearestWhole (d / h)).natAbs : ℤ) : ℚ) = |(nearestWhole (d / h) : ℚ)| := by
    rw [ofInt_eq, Int.natCast_natAbs, Int.cast_abs]
  have hundredth : (decimal 1 2 : ℚ) * h = h / 100 := by
    show (1 : ℚ) / 10 ^ 2 * h = h / 100
    ring
  rw [size, hundredth] at off
  rw [← abs_abs_sub positive]
  exact off

lemma comes_sweepTo (loose : Loose c) (sweeping : c.sweeping = true) (x : ℚ) :
    Ensures Loose (fun done s => if done then InStep c → Comes x c s else s = c) (sweepTo x) c := by
  obtain ⟨h, step, positive, -⟩ := loose.step sweeping
  refine (ensures_need loose).bind ?_
  rintro f c ⟨rfl, actual⟩
  refine ensures_known step (Ensures.lift_bind loose fun q divided => .lift_bind loose fun n rounded => ?_)
  obtain rfl := Except.ok.inj ((quotient_of_pos positive _).symm.trans divided)
  obtain rfl := Except.ok.inj ((nearest_eq _).symm.trans rounded)
  refine (ensures_need loose).bind ?_
  rintro k c ⟨rfl, address⟩
  refine .ite (fun fits => ?_) fun _ => .pure loose rfl
  have near := abs_sub_lt_of_fits positive (Bool.and_eq_true_iff.mp fits).1
  refine (stands_setAddress loose.stands _).bind fun _ c' stands => (stands_putAddress stands _).bind fun _ c' stands => ?_
  refine .pure stands.toLoose fun inStep g here => ?_
  obtain ⟨y, k', h', centre, address', step', before⟩ := held_eq_some_iff.mp ((inStep sweeping).symm.trans actual)
  obtain rfl := Option.some.inj (address'.symm.trans address)
  obtain rfl := Option.some.inj (step'.symm.trans step)
  rw [centre, step] at stands
  obtain rfl := Option.some.inj (stands.held_eq.symm.trans here)
  refine .address sweeping (stands.centre_eq.trans centre.symm) stands.width_eq (stands.step_eq.trans step.symm) step ?_
  rw [value_add, abs_sub_comm]
  rwa [show x - (y + (k'.value + nearestWhole ((x - f) / h') - 2048) * h') = x - f - nearestWhole ((x - f) / h') * h' by
    rw [← before]; ring]

lemma comes_changeField (loose : Loose c) (sweeping : c.sweeping = true) (x : ℚ) :
    Ensures Loose (fun _ s => InStep c → Comes x c s) (changeField x) c := by
  refine (comes_sweepTo loose sweeping x).bind_safe fun done s here there => ?_
  cases done with
  | true => exact .pure here there
  | false =>
    obtain rfl : s = c := there
    exact (comes_changeWidth loose x).mono fun _ _ comes _ => comes

/-! ### Fields -/

lemma settled_setNext (loose : Loose c) (x : ℚ) : Ensures Loose (fun _ => Settled x c) (setNext x) c := by
  refine .lift_bind loose fun _ _ => .get_bind (Ensures.ite (fun _ => settled_setFirst loose x) fun _ => ?_)
  refine .ite (fun _ => ?_) fun sweeping => .ite (fun ready => ?_) fun _ => ?_
  · exact (comes_changeWidth loose x).bind_safe fun _ c' loose comes => settled_notes loose fun _ => comes
  · rw [loose.ready] at ready
    cases ready
  · have sweeping : c.sweeping = true := by simpa using sweeping
    exact (comes_changeField loose sweeping x).bind_safe fun _ c' loose comes => settled_notes loose comes

lemma settled_setField (loose : Loose c) (x : ℚ) : Ensures Loose (fun _ => Settled x c) (setField x) c := by
  refine (ensures_idle (idle_checkField x c) loose).bind ?_
  rintro _ c rfl
  exact .get_bind (Ensures.ite (fun _ => settled_setNext loose x) fun _ => settled_setFirst loose x)

lemma reads_field (loose : Loose c) : Ensures Loose (fun r s => s = c ∧ r = c.actual) field c := by
  refine .get_bind (Ensures.ite (fun _ => ?_) fun _ => .pure loose ⟨rfl, rfl⟩)
  exact (ensures_stop (Q := fun _ _ => False) loose _).bind fun _ _ never => never.elim

def setAndRead (x : ℚ) : Act (Controller ℚ) (Option ℚ) := do
  setField x
  field

lemma settled_setAndRead (loose : Loose c) (x : ℚ) :
    Ensures Loose (fun r s => r = s.actual ∧ Settled x c s) (setAndRead x) c := by
  refine (settled_setField loose x).bind_safe fun _ c' loose settled => (reads_field loose).mono ?_
  rintro _ _ ⟨rfl, rfl⟩
  exact ⟨rfl, settled⟩

end Controller

open Controller

/-! ### Sessions -/

variable {c : Controller ℚ} {b : Bench} {calls : List Call}

lemma Call.loose_act {call : Call} (loose : Loose c) (plain : call.startsOver = false) :
    Ensures Loose (fun _ s => InStep c → InStep s) call.act c := by
  cases call with
  | setup start step stepText => cases plain
  | set x =>
    refine (settled_setField loose x).bind_safe fun _ c' loose settled => (reads_field loose).bind ?_
    rintro _ c' ⟨rfl, -⟩
    obtain ⟨g, actual, held, -⟩ := settled
    exact .pure loose fun _ _ => actual.trans held.symm
  | read =>
    refine (reads_field loose).bind ?_
    rintro _ c' ⟨rfl, -⟩
    exact .pure loose id
  | sweep up =>
    refine .bind (Q := fun _ _ => False)
      (Ensures.get_bind (Ensures.ite (fun _ => ?_) fun ready => ?_)) fun _ _ never => never.elim
    · exact (ensures_stop (Q := fun _ _ => False) loose _).bind fun _ _ never => never.elim
    · simp [loose.ready] at ready

/-- Each call returns, or leaves the remembered field in step. -/
def Orderly : List Call → Controller ℚ → Bench → Prop
  | [], _, _ => True
  | call :: calls, c, b => ((perform call.act c b).1.1.isOk = true ∨ InStep (perform call.act c b).1.2) ∧
      Orderly calls (perform call.act c b).1.2 (perform call.act c b).2

lemma loose_after (loose : Loose c) (plain : ∀ call ∈ calls, call.startsOver = false) (inStep : InStep c)
    (orderly : Orderly calls c b) : Loose (after calls c b).1 ∧ InStep (after calls c b).1 := by
  induction calls generalizing c b with
  | nil => exact ⟨loose, inStep⟩
  | cons call calls ih =>
    obtain ⟨here, later⟩ := orderly
    obtain ⟨loose', kept⟩ := Call.loose_act loose (plain call List.mem_cons_self) b
    refine ih loose' (fun next mem => plain next (List.mem_cons_of_mem _ mem)) ?_ later
    rcases here with returned | still
    · obtain ⟨⟨⟩, done⟩ := Outcome.exists_of_isOk returned
      exact kept () done inStep
    · exact still

def unset (mode : Mode) (line : Line.Parameters) (connected : Option Bool) : Controller ℚ :=
  { mode, line, connected, deviation := 0 }

lemma loose_unset (mode : Mode) (line : Line.Parameters) (connected : Option Bool) : Loose (unset mode line connected) :=
  ⟨rfl, by simp [unset], by simp [unset]⟩

lemma Controller.Way.abs_sub_lt {x g : ℚ} {c' : Controller ℚ} (loose : Loose c) (way : Way x g c c') : |g - x| < 1 / 25 := by
  cases way with
  | address sweeping centre width kept step near =>
    obtain ⟨h, same, -, small⟩ := loose.step sweeping
    obtain rfl := Option.some.inj (step.symm.trans same)
    linarith
  | resolved near => linarith
  | guessed centre guess width low high =>
    rw [abs_lt]
    constructor
    · linarith
    · linarith

/-- A field that is set without a sweep set up comes within 40 mG. By a sweep address alone it comes within a hundredth of a
step, by a new sweep width at most 25 mG too high, and otherwise within the resolution, or 5 mG. The field that is told is the
one that belongs to what is held. -/
theorem field_comes_near {mode : Mode} {line : Line.Parameters} {connected : Option Bool} {calls : List Call} {b : Bench}
    (plain : ∀ call ∈ calls, call.startsOver = false) (orderly : Orderly calls (unset mode line connected) b)
    {c c' : Controller ℚ} {b' : Bench} (ran : after calls (unset mode line connected) b = (c, b')) {x : ℚ} {r : Option ℚ}
    (done : (perform (setAndRead x) c b').1 = (.ok r, c')) :
    ∃ g, r = some g ∧ c'.actual = some g ∧ c'.held = some g ∧ |g - x| < 1 / 25 ∧ Way x g c c' := by
  have there := loose_after (loose_unset mode line connected) plain (by simp [InStep, unset]) orderly
  rw [ran] at there
  obtain ⟨loose, inStep⟩ := there
  have settled := (settled_setAndRead loose x b').2
  rw [done] at settled
  obtain ⟨told, g, actual, held, way⟩ := settled r rfl
  exact ⟨g, told.trans actual, actual, held, (way inStep).abs_sub_lt loose, way inStep⟩

/-- The way from 10000 G to 17000 G is gone in steps of 3.9 G. A sweep that is asked for before fails and changes nothing. -/
def approach : List Call := [.set 10000, .sweep true, .set 17000]

/-- What the steps lead to. -/
def approached : Controller ℚ × Bench := after approach (unset .rehearsal busLine none) {}

/-- The next address is good enough for a field 31 mG beyond it. -/
theorem next_step_comes_near : Orderly approach (unset .rehearsal busLine none) {} ∧
    ∃ c', (perform (setAndRead (1700394 / 100)) approached.1 approached.2).1 =
        (.ok (some (10000 + 1793 * (159961 / 40950))), c') ∧
      |10000 + 1793 * (159961 / 40950) - 1700394 / 100| < (1 / 25 : ℚ) ∧ c'.held = some (10000 + 1793 * (159961 / 40950)) := by
  have orderly : Orderly approach (unset .rehearsal busLine none) {} :=
    ⟨Or.inl (by decide +kernel), Or.inr (by decide +kernel), Or.inl (by decide +kernel), trivial⟩
  have plain : ∀ call ∈ approach, call.startsOver = false := by decide
  have told : (perform (setAndRead (1700394 / 100)) approached.1 approached.2).1.1 =
      .ok (some (10000 + 1793 * (159961 / 40950))) := by decide +kernel
  obtain ⟨g, same, -, held, near, -⟩ := field_comes_near plain orderly rfl (Prod.ext told rfl)
  obtain rfl := Option.some.inj same
  exact ⟨orderly, _, Prod.ext told rfl, near, held⟩

/-- That is not within the resolution, and neither is 17001 G with a new sweep width, which comes out 9 mG too high. -/
theorem resolution_is_missed :
    ((perform (setAndRead (1700394 / 100)) (after [.set 10000, .set 17000] (unset .rehearsal busLine none) {}).1 {}).1.1 =
        .ok (some (10000 + 1793 * (159961 / 40950))) ∧
      (1 / 200 : ℚ) < |10000 + 1793 * (159961 / 40950) - 1700394 / 100|) ∧
    (perform (setAndRead 17001) (after [.set 10000] (unset .rehearsal busLine none) {}).1 {}).1.1 =
        .ok (some (10000 + 1792 * (159984 / 40950))) ∧ (1 / 200 : ℚ) < 10000 + 1792 * (159984 / 40950) - 17001 := by
  decide +kernel

/-! ### The field that is told -/

/-- The sweep address that is held after some orders, the last first. -/
def heldAddress : List (Order ℚ) → Option (Address ℚ)
  | [] => none
  | .address a :: _ => some a
  | _ :: os => heldAddress os

def sentField (os : List (Order ℚ)) : Option ℚ := do
  let y ← heldCentre os
  let a ← heldAddress os
  let w ← heldWidth os
  return y + (a.value - 2048) * w / 4095

/-- With steps of 80 mG the sweep is shifted by 113.84 G, which takes its centre field off the grid. Without any sweep, a field
that is set after one that could not be set is told with a sweep width that was not sent. -/
theorem told_field_is_not_sent :
    ((perform (Call.setup 22950 (2 / 25) "0.08").act (fresh busLine) {}).1.1.isOk = true ∧
      (after [.setup 22950 (2 / 25) "0.08"] (fresh busLine) {}).1.actual = some 22950 ∧
      sentField (after [.setup 22950 (2 / 25) "0.08"] (fresh busLine) {}).1.orders = some (2294999 / 100)) ∧
    (perform (Call.set (220651 / 10)).act (after [.set 22000, .set 22500] (fresh busLine) {}).1
      (after [.set 22000, .set 22500] (fresh busLine) {}).2).1.1.isOk = true ∧
    (after [.set 22000, .set 22500, .set (220651 / 10)] (fresh busLine) {}).1.actual ≠
      sentField (after [.set 22000, .set 22500, .set (220651 / 10)] (fresh busLine) {}).1.orders := by
  decide +kernel

end EprBench.Magnet
