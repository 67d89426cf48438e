import EprBench.Magnet.Controller
import EprBench.Proofs.Acts
import EprBench.Proofs.Quantity

/-! What a field controller holds after the orders that were sent to it, and what the single orders do to that. All numbers
are exact. -/
namespace EprBench.Magnet

open Quantity Outcome

variable {w x : ℚ} {os : List (Order ℚ)}

/-! ### Limits and grids -/

@[simp] lemma minField_eq : (minField : ℚ) = -50 := by norm_num [minField]

@[simp] lemma maxField_eq : (maxField : ℚ) = 23000 := by norm_num [maxField]

@[simp] lemma maxAddress_eq : ((ofInt maxAddress : ℚ)) = 4095 := by norm_num [maxAddress]

@[simp] lemma minStep_eq : (minStep : ℚ) = 1 / 1000 := by
  show (1 : ℚ) / 10 ^ 3 = _
  norm_num

@[simp] lemma centreGrid_eq : (centreGrid : ℚ) = 1 / 20 := by
  show (5 : ℚ) / 10 ^ 2 = _
  norm_num

@[simp] lemma widthGrid_eq : (widthGrid : ℚ) = 1 / 10 := by
  show (1 : ℚ) / 10 ^ 1 = _
  norm_num

def gridCentre (x : ℚ) : ℚ := nearestWhole (20 * x) / 20

def gridWidth (x : ℚ) : ℚ := nearestWhole (10 * x) / 10

/-- How many of the smallest steps a field is above the grid of the centre field. -/
def gridSteps (x : ℚ) : ℤ := nearestWhole (1000 * x) % 50

lemma onCentreGrid_eq (x : ℚ) : onCentreGrid x = .ok (gridCentre x) := by
  have scaled : x / (centreGrid : ℚ) = 20 * x := by
    rw [centreGrid_eq]
    ring
  rw [onCentreGrid, scaled, nearest_eq, ok_bind, pure_eq_ok, gridCentre, ofInt_eq, centreGrid_eq]
  ring

lemma onWidthGrid_eq (x : ℚ) : onWidthGrid x = .ok (gridWidth x) := by
  have scaled : x / (widthGrid : ℚ) = 10 * x := by
    rw [widthGrid_eq]
    ring
  rw [onWidthGrid, scaled, nearest_eq, ok_bind, pure_eq_ok, gridWidth, ofInt_eq, widthGrid_eq]
  ring

lemma gridRest_eq (x : ℚ) : gridRest x = .ok (gridSteps x) := by
  have scaled : x / (minStep : ℚ) = 1000 * x := by
    rw [minStep_eq]
    ring
  rw [gridRest, inSteps, scaled, nearest_eq]
  rfl

lemma restOf_eq (x : ℚ) : Controller.restOf x = .ok (gridSteps x / 1000 : ℚ) := by
  rw [Controller.restOf, gridRest_eq, ok_bind, pure_eq_ok, ofInt_eq, minStep_eq]
  ring

/-- A multiple of the smallest sweep width. -/
def OnGrid (width : ℚ) : Prop := ∃ m : ℤ, width = m / 10

lemma onGrid_gridWidth (x : ℚ) : OnGrid (gridWidth x) := ⟨_, rfl⟩

lemma gridWidth_of_onGrid (grid : OnGrid w) : gridWidth w = w := by
  obtain ⟨m, rfl⟩ := grid
  have scaled : 10 * ((m : ℚ) / 10) = m := by ring
  rw [gridWidth, scaled, nearestWhole_intCast]

@[simp] lemma gridWidth_zero : gridWidth 0 = 0 := gridWidth_of_onGrid ⟨0, by norm_num⟩

lemma gridCentre_gridCentre (x : ℚ) : gridCentre (gridCentre x) = gridCentre x := by
  have scaled : 20 * ((nearestWhole (20 * x) : ℚ) / 20) = nearestWhole (20 * x) := by ring
  rw [gridCentre, gridCentre, scaled, nearestWhole_intCast]

/-! ### The field range -/

/-- The sweep about a centre field stays in the field range. -/
def Fits (centre width : ℚ) : Prop := -50 ≤ centre - width / 2 ∧ centre + width / 2 ≤ 23000

instance (centre width : ℚ) : Decidable (Fits centre width) := inferInstanceAs (Decidable (_ ∧ _))

lemma fits_iff {c : ℚ} : Fits c w ↔ sweepLeaves c w = false := by
  simp only [Fits, sweepLeaves, lt_eq, half_eq, minField_eq, maxField_eq, Bool.or_eq_false_iff, decide_eq_false_iff_not, not_lt]
  constructor
  · rintro ⟨low, high⟩
    constructor <;> linarith
  · rintro ⟨low, high⟩
    constructor <;> linarith

lemma fits_zero_iff {c : ℚ} : Fits c 0 ↔ inField c = true := by
  simp [Fits, inField]

lemma Fits.gridCentre {c : ℚ} (fits : Fits c w) (grid : OnGrid w) : Fits (gridCentre c) w := by
  obtain ⟨m, rfl⟩ := grid
  obtain ⟨low, high⟩ := fits
  have low' : m - 1000 ≤ nearestWhole (20 * c) := le_nearestWhole (by push_cast; linarith)
  have high' : nearestWhole (20 * c) ≤ 460000 - m := nearestWhole_le (by push_cast; linarith)
  have lower : (m : ℚ) - 1000 ≤ nearestWhole (20 * c) := by exact_mod_cast low'
  have upper : (nearestWhole (20 * c) : ℚ) ≤ 460000 - m := by exact_mod_cast high'
  rw [Magnet.gridCentre]
  constructor <;> linarith

/-! ### What is held -/

variable {α : Type}

def heldCentre : List (Order α) → Option α
  | [] => none
  | .centre x :: _ => some x
  | _ :: os => heldCentre os

def heldWidth : List (Order α) → Option α
  | [] => none
  | .width x :: _ => some x
  | _ :: os => heldWidth os

/-- After each of the orders the sweep stays in the field range, once both its centre field and its width are set. -/
def Kept : List (Order ℚ) → Prop
  | [] => True
  | o :: os => (∀ c ∈ heldCentre (o :: os), ∀ w ∈ heldWidth (o :: os), Fits c w) ∧ Kept os

instance decideKept : (os : List (Order ℚ)) → Decidable (Kept os)
  | [] => isTrue trivial
  | o :: os =>
    have := decideKept os
    inferInstanceAs (Decidable ((∀ c ∈ heldCentre (o :: os), ∀ w ∈ heldWidth (o :: os), Fits c w) ∧ Kept os))

lemma kept_centre (kept : Kept os) (fits : ∀ w ∈ heldWidth os, Fits x w) : Kept (.centre x :: os) :=
  ⟨fun _ same w held => Option.some.inj same ▸ fits w held, kept⟩

lemma kept_width (kept : Kept os) (fits : ∀ c ∈ heldCentre os, Fits c x) : Kept (.width x :: os) :=
  ⟨fun c held _ same => Option.some.inj same ▸ fits c held, kept⟩

lemma kept_address {a : Address ℚ} (kept : Kept os) : Kept (.address a :: os) := by
  refine ⟨fun c centre w width => ?_, kept⟩
  cases os with
  | nil => simp [heldCentre] at centre
  | cons o os => exact kept.1 c centre w width

namespace Controller

structure Safe (c : Controller ℚ) : Prop where
  live : c.mode = .live
  kept : Kept c.orders
  centre : ∀ x ∈ heldCentre c.orders, Fits x 0
  width : ∀ w ∈ heldWidth c.orders, OnGrid w

/-- The sweep width that is held is the one that is thought to be. -/
structure Steady (c : Controller ℚ) : Prop extends Safe c where
  known : c.width = heldWidth c.orders

structure Leaves (u v : Controller ℚ × Bench) : Prop where
  mode : v.1.mode = u.1.mode
  orders : v.1.orders = u.1.orders
  width : v.1.width = u.1.width

instance : IsPreorder (Controller ℚ × Bench) Leaves where
  refl _ := ⟨rfl, rfl, rfl⟩
  trans _ _ _ first second :=
    ⟨second.mode.trans first.mode, second.orders.trans first.orders, second.width.trans first.width⟩

variable {c c' : Controller ℚ} {b b' : Bench} {β : Type} {S : Controller ℚ → Prop}

lemma Safe.of_orders (safe : Safe c) (mode : c'.mode = c.mode) (orders : c'.orders = c.orders) : Safe c' :=
  ⟨mode.trans safe.live, orders ▸ safe.kept, orders ▸ safe.centre, orders ▸ safe.width⟩

lemma Steady.leaves (steady : Steady c) (leaves : Leaves (c, b) (c', b')) : Steady c' :=
  ⟨steady.toSafe.of_orders leaves.mode leaves.orders, leaves.width.trans (steady.known.trans (leaves.orders ▸ rfl))⟩

lemma ensures_steady {x : Act (Controller ℚ) β} (within : Within Leaves x c) (steady : Steady c) :
    Ensures Safe (fun _ => Steady) x c :=
  Ensures.of_within within (fun _ _ _ leaves => (steady.leaves leaves).toSafe) fun _ _ _ _ leaves => steady.leaves leaves

lemma ensures_idle {x : Act (Controller ℚ) β} (idle : Within SameMemory x c) (safe : S c) :
    Ensures S (fun _ s => s = c) x c := by
  refine .of_within idle (fun _ s _ same => ?_) fun _ _ _ _ same => same
  have kept : s = c := same
  rw [kept]
  exact safe

lemma leaves_idle {x : Act (Controller ℚ) β} (idle : Within SameMemory x c) : Within Leaves x c :=
  idle.mono fun u v same => by
    have kept : v.1 = u.1 := same
    exact ⟨congrArg _ kept, congrArg _ kept, congrArg _ kept⟩

/-! ### Looking and asking -/

lemma idle_write (command : String) (c : Controller ℚ) : Within SameMemory (write command) c := by
  refine .get_bind ?_
  split
  · exact .throw _
  · exact (Within.work _).rescue fun _ _ => .throw _
  · exact .work _

lemma idle_query (command : String) (c : Controller ℚ) : Within SameMemory (query command) c := by
  refine .get_bind ?_
  split
  · refine .rescue ?_ fun _ _ => .throw _
    split
    · exact .bind (.throw _) fun _ _ => (Within.work _).bind fun _ _ => .work _
    · exact (Within.work _).bind fun _ _ => .work _
  · exact .work _

lemma idle_awaitBalance (n : Nat) (c : Controller ℚ) : Within SameMemory (awaitBalance n) c := by
  induction n generalizing c with
  | zero => exact .pure _
  | succ n ih =>
    have rest (answer : String) (c : Controller ℚ) : Within SameMemory (do
        if answer == "LE1\r\n" then
          Bench.sleep 1
          awaitBalance n : Act (Controller ℚ) Unit) c := by
      exact .ite ((Within.work _).bind fun _ c => ih c) (Within.pure _)
    refine (idle_query "LE" c).bind fun answer c => ?_
    exact .ite ((Within.work _).bind fun _ c => rest answer c) (rest answer c)

lemma idle_checkLights (c : Controller ℚ) : Within SameMemory checkLights c := by
  refine .get_bind ?_
  split
  · exact .bind (fun _ => rfl) fun _ c => idle_awaitBalance _ c
  · exact .pure _

lemma need_eq_ok {x : Option β} {a : β} : need x = .ok a ↔ x = some a := by
  cases x <;> simp [need]

lemma ensures_theCentre (safe : S c) : Ensures S (fun a s => s = c ∧ c.centre = some a) theCentre c := by
  refine .get_bind (Ensures.get_bind ?_)
  rcases here : c.centre with _ | a
  · cases c.centred with
    | true => exact .throw _ safe
    | false => exact .throw _ safe
  · exact .pure safe ⟨rfl, rfl⟩

lemma ensures_need {x : Controller ℚ → Option β} (safe : S c) :
    Ensures S (fun a s => s = c ∧ x c = some a) (do need (x (← get))) c :=
  Ensures.get_bind fun _ => ⟨safe, fun _ same => ⟨rfl, need_eq_ok.mp same⟩⟩

lemma ensures_theWidth (safe : S c) : Ensures S (fun a s => s = c ∧ c.width = some a) theWidth c := ensures_need safe

section

variable {R : Controller ℚ × Bench → Controller ℚ × Bench → Prop} [IsPreorder (Controller ℚ × Bench) R]

lemma idle_theCentre (c : Controller ℚ) : Within R theCentre c := by
  refine .get_bind (Within.get_bind ?_)
  split
  · exact .pure _
  · exact .throw _
  · exact .throw _

lemma idle_need {x : Controller ℚ → Option β} (c : Controller ℚ) : Within R (do need (x (← get))) c :=
  Within.get_bind (Within.lift _)

lemma idle_search (centre : ℚ) (address : Address ℚ) (up : Bool) (c : Controller ℚ) :
    Within R (search centre address up) c :=
  (idle_need c).bind fun _ c => (idle_need c).bind fun _ _ => (Within.lift _).bind fun _ _ => .pure _

end

lemma leaves_noteDeviation (field : ℚ) (c : Controller ℚ) : Within Leaves (noteDeviation field) c := by
  refine (idle_theCentre c).bind fun _ c => (idle_need c).bind fun _ c => ?_
  refine (idle_need c).bind fun _ c => .get_bind ?_
  split
  · exact .modify fun _ => ⟨rfl, rfl, rfl⟩
  · exact .pure _

lemma leaves_updateActual (c : Controller ℚ) : Within Leaves updateActual c := by
  refine .bind ?_ fun _ _ => .modify fun _ => ⟨rfl, rfl, rfl⟩
  refine (idle_theCentre c).bind fun _ c => (idle_need c).bind fun _ c => ?_
  exact (idle_need c).bind fun _ _ => .pure _

lemma idle_checkField (field : ℚ) (c : Controller ℚ) : Within SameMemory (checkField field) c := by
  refine .get_bind ?_
  cases c.mode with
  | live =>
    have low (c : Controller ℚ) := Within.ite (p := lt field (minField : ℚ) = true) (s := c)
      (Within.work (Bench.stop (α := Unit) s!"Field of {text field} G is too low, minimum field is {text (minField : ℚ)} G."))
      (Within.pure ())
    exact .ite ((Within.work _).bind fun _ c => low c) (low c)
  | rehearsal => exact .lift _

lemma ensures_isSettable (safe : S c) :
    Ensures S (fun a s => s = c ∧ (a = true → ∃ x w, c.centre = some x ∧ c.width = some w ∧ Fits x w)) isSettable c := by
  refine (ensures_need safe).bind fun address s known => ?_
  obtain ⟨rfl, -⟩ := known
  refine (ensures_theCentre safe).bind fun x s known => ?_
  obtain ⟨rfl, centre⟩ := known
  refine (ensures_theWidth safe).bind fun w s known => ?_
  obtain ⟨rfl, width⟩ := known
  refine .pure safe ⟨rfl, fun fits => ⟨x, w, centre, width, fits_iff.mpr ?_⟩⟩
  simpa using (Bool.and_eq_true_iff.mp fits).2

/-! ### Orders -/

def given (o : Order ℚ) (c : Controller ℚ) : Controller ℚ := if c.mode == .live then { c with orders := o :: c.orders } else c

lemma given_of_live (live : c.mode = .live) (o : Order ℚ) : c.given o = { c with orders := o :: c.orders } :=
  if_pos (by rw [live]; rfl)

def swept (w : ℚ) (c : Controller ℚ) : Controller ℚ := { c with step := some (w / 4095), sweeping := decide (w ≠ 0) }

lemma ensures_give {o : Order ℚ} (sent : S (c.given o)) : Ensures S (fun _ s => s = c.given o) (give o) c := by
  refine .get_bind (Ensures.ite (fun live => ?_) fun other => ?_)
  · rw [given, if_pos live] at sent ⊢
    exact .modify_bind (ensures_idle ((idle_write _ _).bind fun _ c => idle_write _ c) sent)
  · rw [given, if_neg other] at sent ⊢
    exact .pure sent rfl

lemma ensures_putAddress {a : Address ℚ} (safe : S c) (sent : S (c.given (.address a))) :
    Ensures S (fun _ s => s = c.given (.address a)) (putAddress a) c :=
  Ensures.lift_bind safe fun _ _ => ensures_give sent

lemma ensures_putCentre (safe : S c) (sent : Fits (gridCentre x) 0 → S (c.given (.centre (gridCentre x)))) :
    Ensures S (fun z s => z = gridCentre x ∧ Fits z 0 ∧ s = c.given (.centre z)) (putCentre x) c := by
  refine .lift_bind safe fun y grid => .lift_bind safe fun _ inside => ?_
  obtain rfl := Except.ok.inj ((onCentreGrid_eq x).symm.trans grid)
  have within : Fits (gridCentre x) 0 := fits_zero_iff.mpr (ensure_eq_ok.mp inside)
  refine (ensures_give (sent within)).bind fun _ s same => ?_
  subst same
  exact .pure (sent within) ⟨rfl, within, rfl⟩

lemma ensures_putWidth (safe : S c) (sent : 0 ≤ x → x ≤ 16000 → S ((c.swept (gridWidth x)).given (.width (gridWidth x)))) :
    Ensures S (fun z s => z = gridWidth x ∧ (0 ≤ x ∧ x ≤ 16000) ∧ s = (c.swept z).given (.width z)) (putWidth x) c := by
  refine .lift_bind safe fun _ inside => .lift_bind safe fun z grid => .lift_bind safe fun n whole => ?_
  obtain rfl := Except.ok.inj ((onWidthGrid_eq x).symm.trans grid)
  have inside : 0 ≤ x ∧ x ≤ 16000 := by simpa [maxWidth] using ensure_eq_ok.mp inside
  have sent := sent inside.1 inside.2
  have marked {step : ℚ} {sweeping : Bool} (same : { c with step := some step, sweeping } = c.swept (gridWidth x)) :
      Ensures S (fun z s => z = gridWidth x ∧ (0 ≤ x ∧ x ≤ 16000) ∧ s = (c.swept z).given (.width z)) (do
        modify fun c => { c with step := some step, sweeping }
        give (.width (gridWidth x))
        return gridWidth x) c := by
    refine .modify_bind ?_
    rw [same]
    refine (ensures_give sent).bind fun _ s made => ?_
    subst made
    exact .pure sent ⟨rfl, inside, rfl⟩
  have scaled : gridWidth x = n / 10 := by
    have tenfold : gridWidth x / (widthGrid : ℚ) = (nearestWhole (10 * x) : ℤ) := by
      rw [gridWidth, widthGrid_eq]
      ring
    rw [tenfold, nearest_eq, nearestWhole_intCast] at whole
    rw [gridWidth, Except.ok.inj whole]
  refine .ite (fun wide => marked ?_) fun none => marked ?_
  · have wide : n ≠ 0 := by simpa using wide
    have other : gridWidth x ≠ 0 := by
      rw [scaled]
      positivity
    rw [swept, decide_eq_true other, maxAddress_eq]
  · have none : n = 0 := by simpa using none
    have still : gridWidth x = 0 := by rw [scaled, none, Int.cast_zero, zero_div]
    simp [swept, still]

lemma Safe.order_address (safe : Safe c) (a : Address ℚ) : Safe { c with orders := .address a :: c.orders } :=
  ⟨safe.live, kept_address safe.kept, safe.centre, safe.width⟩

lemma Safe.order_centre (safe : Safe c) (inside : Fits x 0) (fits : ∀ w ∈ heldWidth c.orders, Fits x w) :
    Safe { c with orders := .centre x :: c.orders } :=
  ⟨safe.live, kept_centre safe.kept fits, fun _ same => Option.some.inj same ▸ inside, safe.width⟩

lemma Safe.order_width (safe : Safe c) (grid : OnGrid w) (fits : ∀ x ∈ heldCentre c.orders, Fits x w) :
    Safe { c with orders := .width w :: c.orders } :=
  ⟨safe.live, kept_width safe.kept fits, safe.centre, fun _ same => Option.some.inj same ▸ grid⟩

end Controller

end EprBench.Magnet
