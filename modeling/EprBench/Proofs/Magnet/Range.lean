import EprBench.Proofs.Bench
import EprBench.Proofs.Magnet.Orders

/-! The ways to set a field, one after the other, and what each of them needs to keep the sweep in the field range. -/
namespace EprBench.Magnet

open Quantity Outcome

variable {x : ℚ}

def restAbove (x : ℚ) : ℚ := gridSteps x / 1000

def asideCentre (x : ℚ) : ℚ := gridCentre (x - restAbove x)

def AsideFits (x : ℚ) : Prop := Fits (asideCentre x) (gridWidth (4095 * restAbove x))

instance (x : ℚ) : Decidable (AsideFits x) := inferInstanceAs (Decidable (Fits _ _))

lemma Fits.of_le {x w w' : ℚ} (fits : Fits x w') (narrower : w ≤ w') : Fits x w := by
  obtain ⟨low, high⟩ := fits
  constructor
  · linarith
  · linarith

lemma onGrid_of_guessWidth {centre diff width step : ℚ} (guessed : guessWidth centre diff = .ok (some (width, step))) :
    OnGrid width := by
  -- Both ways to divide the width end in the same steps.
  have last {p : Prop} [Decidable p] {w : ℚ} {reach : ℚ → Prop} [DecidablePred reach] (done : (if p then pure none else do
      let width ← onWidthGrid w
      return if reach width then some (width, width / ofInt maxAddress) else none : Outcome _) =
        .ok (some (width, step))) : OnGrid width := by
    split at done
    · simp at done
    rw [onWidthGrid_eq, ok_bind, pure_eq_ok] at done
    split at done
    · rw [Option.some.injEq, Prod.mk.injEq] at done
      exact done.1 ▸ onGrid_gridWidth w
    · simp at done
  rw [guessWidth] at guessed
  split at guessed
  · simp at guessed
  split at guessed
  · simp at guessed
  dsimp only at guessed
  split at guessed
  · obtain ⟨factor, -, guessed⟩ := bind_eq_ok.mp guessed
    exact last guessed
  · obtain ⟨factor, -, guessed⟩ := bind_eq_ok.mp guessed
    exact last guessed

namespace Controller

structure At (os : List (Order ℚ)) (w x : Option ℚ) (c : Controller ℚ) : Prop extends Safe c where
  orders : c.orders = os
  remembered : c.width = w
  centre_eq : c.centre = x

variable {c c' : Controller ℚ} {os : List (Order ℚ)} {width centre : Option ℚ} {β : Type}

lemma Safe.at (safe : Safe c) : At c.orders c.width c.centre c := ⟨safe, rfl, rfl, rfl⟩

lemma At.steady (here : At os width centre c) (known : width = heldWidth os) : Steady c :=
  ⟨here.toSafe, by rw [here.remembered, here.orders, known]⟩

lemma At.frame (here : At os width centre c) (mode : c'.mode = c.mode) (orders : c'.orders = c.orders)
    (kept : c'.width = c.width) (centred : c'.centre = c.centre) : At os width centre c' :=
  ⟨here.toSafe.of_orders mode orders, orders.trans here.orders, kept.trans here.remembered, centred.trans here.centre_eq⟩

/-! ### Single orders -/

lemma at_idle {x : Act (Controller ℚ) β} (idle : Within SameMemory x c) (here : At os width centre c) :
    Ensures Safe (fun _ => At os width centre) x c := by
  refine (ensures_idle idle here.toSafe).mono ?_
  rintro _ _ rfl
  exact here

lemma at_setCentre (here : At os width centre c) (x : ℚ) :
    Ensures Safe (fun _ => At os width (some x)) (setCentre x) c :=
  Ensures.modify (here.of_orders rfl rfl) ⟨here.of_orders rfl rfl, here.orders, here.remembered, rfl⟩

lemma at_setWidth (here : At os width centre c) (x : ℚ) : Ensures Safe (fun _ => At os (some x) centre) (setWidth x) c :=
  Ensures.modify (here.of_orders rfl rfl) ⟨here.of_orders rfl rfl, here.orders, rfl, here.centre_eq⟩

lemma at_setAddress (here : At os width centre c) (a : Address ℚ) :
    Ensures Safe (fun _ => At os width centre) (setAddress a) c :=
  Ensures.modify (here.of_orders rfl rfl) (here.frame rfl rfl rfl rfl)

lemma at_putAddress (here : At os width centre c) (a : Address ℚ) :
    Ensures Safe (fun _ => At (.address a :: os) width centre) (putAddress a) c := by
  have sent : At (.address a :: os) width centre (c.given (.address a)) := by
    rw [given_of_live here.live]
    exact ⟨here.toSafe.order_address a, congrArg _ here.orders, here.remembered, here.centre_eq⟩
  refine (ensures_putAddress here.toSafe sent.toSafe).mono ?_
  rintro _ _ rfl
  exact sent

lemma at_putCentre (here : At os width centre c)
    (fits : Fits (gridCentre x) 0 → ∀ w ∈ heldWidth os, Fits (gridCentre x) w) :
    Ensures Safe (fun a s => a = gridCentre x ∧ At (.centre (gridCentre x) :: os) width centre s) (putCentre x) c := by
  have sent (inside : Fits (gridCentre x) 0) :
    At (.centre (gridCentre x) :: os) width centre (c.given (.centre (gridCentre x))) := by
    rw [given_of_live here.live]
    exact ⟨here.toSafe.order_centre inside (here.orders ▸ fits inside), congrArg _ here.orders, here.remembered, here.centre_eq⟩
  refine (ensures_putCentre here.toSafe fun inside => (sent inside).toSafe).mono ?_
  rintro a _ ⟨rfl, inside, rfl⟩
  exact ⟨rfl, sent inside⟩

lemma at_putWidth (here : At os width centre c) (fits : ∀ y ∈ heldCentre os, Fits y (gridWidth x)) :
    Ensures Safe (fun a s => a = gridWidth x ∧ At (.width (gridWidth x) :: os) width centre s) (putWidth x) c := by
  have sent : At (.width (gridWidth x) :: os) width centre ((c.swept (gridWidth x)).given (.width (gridWidth x))) := by
    have safe : Safe (c.swept (gridWidth x)) := here.of_orders rfl rfl
    rw [given_of_live safe.live]
    exact ⟨safe.order_width (onGrid_gridWidth x) (here.orders ▸ fits), congrArg _ here.orders, here.remembered, here.centre_eq⟩
  refine (ensures_putWidth here.toSafe fun _ _ => sent.toSafe).mono ?_
  rintro _ _ ⟨rfl, -, rfl⟩
  exact ⟨rfl, sent⟩

lemma at_putZero (here : At os width centre c) :
    Ensures Safe (fun a s => a = 0 ∧ At (.width 0 :: os) width centre s) (putWidth zero) c := by
  have fits : ∀ y ∈ heldCentre os, Fits y (gridWidth (zero : ℚ)) := by
    intro y held
    rw [zero_eq, gridWidth_zero]
    exact here.toSafe.centre y (here.orders ▸ held)
  have done := at_putWidth here fits
  rwa [zero_eq, gridWidth_zero, ← zero_eq] at done

/-! ### Setting aside -/

lemma ensures_setAside (here : At os width centre c)
    (held : Fits (asideCentre x) 0 → ∀ w ∈ heldWidth os, Fits (asideCentre x) w) (aside : AsideFits x) :
    Ensures Safe (fun _ => Steady) (setAside x (restAbove x)) c := by
  refine (at_putCentre here held).bind ?_
  rintro _ s ⟨rfl, here⟩
  refine (at_setCentre here _).bind fun _ s here => (at_setAddress here _).bind fun _ s here => ?_
  refine (at_putAddress here _).bind fun _ s here => ?_
  have fits : ∀ y ∈ heldCentre (.address (.step (centreAddress + 1)) :: .centre (asideCentre x) :: os),
      Fits y (gridWidth (ofInt maxAddress * restAbove x)) := by
    intro y same
    obtain rfl : asideCentre x = y := Option.some.inj same
    rw [maxAddress_eq]
    exact aside
  refine (at_putWidth here fits).bind ?_
  rintro _ s ⟨rfl, here⟩
  exact (at_setWidth here _).mono fun _ _ here => here.steady rfl

/-! ### The first field -/

lemma ensures_notes (x : ℚ) (steady : Steady c) : Ensures Safe (fun _ => Steady) (do
    checkLights
    noteDeviation x
    updateActual : Act (Controller ℚ) Unit) c := by
  refine (ensures_steady (leaves_idle (idle_checkLights c)) steady).bind fun _ c steady => ?_
  refine (ensures_steady (leaves_noteDeviation x c) steady).bind fun _ c steady => ?_
  exact ensures_steady (leaves_updateActual c) steady

lemma ensures_rest {S : Controller ℚ → Prop} {Q : β → Controller ℚ → Prop} {f : ℚ → Act (Controller ℚ) β}
    (later : Ensures S Q (f (restAbove x)) c) : Ensures S Q (liftM (restOf x) >>= f) c := by
  rw [restOf_eq]
  exact later

lemma ensures_setFirst (here : At os width centre c) (aside : AsideFits x) :
    Ensures Safe (fun _ => Steady) (setFirst x) c := by
  refine (Ensures.modify (Q := fun _ => At os width centre) (here.of_orders rfl rfl) (here.frame rfl rfl rfl rfl)).bind ?_
  intro _ c here
  refine ensures_rest ?_
  refine .ite (fun _ => ?_) fun _ => ?_
  · refine (at_putAddress here _).bind fun _ c here => (at_setAddress here _).bind fun _ c here => ?_
    refine (at_putZero here).bind ?_
    rintro _ c ⟨rfl, here⟩
    refine (at_setWidth here 0).bind fun _ c here => ?_
    refine (at_putCentre here fun inside w held => Option.some.inj held ▸ inside).bind ?_
    rintro _ c ⟨rfl, here⟩
    exact (at_setCentre here _).bind fun _ c here => ensures_notes x (here.steady rfl)
  · refine (at_putZero here).bind ?_
    rintro _ c ⟨-, here⟩
    exact (ensures_setAside here (fun inside w held => Option.some.inj held ▸ inside) aside).bind fun _ c => ensures_notes x

/-! ### A new sweep width -/

lemma ensures_changeWidth (here : At os width centre c) (aside : AsideFits x)
    (far : ∀ y ∈ centre, guessWidth y |x - y| = .ok none → 1 / 1000 < restAbove x →
      ∀ w ∈ heldWidth os, Fits (asideCentre x) w) : Ensures Safe (fun _ => Steady) (changeWidth x) c := by
  refine (ensures_theCentre here.toSafe).bind fun y s known => ?_
  obtain ⟨rfl, centred⟩ := known
  rw [here.centre_eq] at centred
  refine .lift_bind here.toSafe fun guessed guess => ?_
  cases guessed with
  | none =>
    refine (Ensures.modify (Q := fun _ => At os width centre) (here.of_orders rfl rfl) (here.frame rfl rfl rfl rfl)).bind ?_
    intro _ c here
    refine ensures_rest ?_
    refine .ite (fun off => ?_) fun _ => ?_
    · have off : 1 / 1000 < restAbove x := by simpa using off
      exact ensures_setAside here (fun _ => far y centred guess off) aside
    · refine (at_putZero here).bind ?_
      rintro _ c ⟨rfl, here⟩
      refine (at_setWidth here 0).bind fun _ c here => ?_
      refine (at_putCentre here fun inside w held => Option.some.inj held ▸ inside).bind ?_
      rintro _ c ⟨rfl, here⟩
      exact (at_setCentre here _).mono fun _ _ here => here.steady rfl
  | some found =>
    obtain ⟨w, step⟩ := found
    refine (Ensures.modify (Q := fun _ => At os (some w) centre) (here.of_orders rfl rfl)
      ⟨here.of_orders rfl rfl, here.orders, rfl, here.centre_eq⟩).bind fun _ c here => ?_
    refine .lift_bind here.toSafe fun q _ => .lift_bind here.toSafe fun n _ => ?_
    refine (at_setAddress here _).bind fun _ c here => (at_idle (idle_search _ _ _ c) here).bind fun _ c here => ?_
    refine .ite (fun _ => ?_) fun fine => ?_
    · refine ensures_rest ?_
      refine (at_putZero here).bind ?_
      rintro _ c ⟨-, here⟩
      exact ensures_setAside here (fun inside w held => Option.some.inj held ▸ inside) aside
    · have fits : Fits y w := by
        refine fits_iff.mpr ?_
        simp only [Bool.or_eq_true, not_or, Bool.not_eq_true] at fine
        exact fine.1.2
      have grid := onGrid_of_guessWidth guess
      refine (at_putZero here).bind ?_
      rintro _ c ⟨-, here⟩
      refine (at_putCentre here fun inside w held => Option.some.inj held ▸ inside).bind ?_
      rintro _ c ⟨rfl, here⟩
      refine (at_setCentre here _).bind fun _ c here => (at_putAddress here _).bind fun _ c here => ?_
      refine (at_putWidth here fun z same => ?_).bind ?_
      · obtain rfl : gridCentre y = z := Option.some.inj same
        rw [gridWidth_of_onGrid grid]
        exact fits.gridCentre grid
      · rintro _ c ⟨rfl, here⟩
        exact (at_setWidth here _).mono fun _ _ here => here.steady rfl

/-! ### The sweep width is kept -/

lemma at_sweepTo (here : At os width centre c) (x : ℚ) :
    Ensures Safe (fun _ s => ∃ os', At os' width centre s ∧ heldWidth os' = heldWidth os) (sweepTo x) c := by
  refine (at_idle (idle_need c) here).bind fun _ c here => (at_idle (idle_need c) here).bind fun _ c here => ?_
  refine .lift_bind here.toSafe fun _ _ => .lift_bind here.toSafe fun _ _ => ?_
  refine (at_idle (idle_need c) here).bind fun _ c here => .ite (fun _ => ?_) fun _ => ?_
  · refine (at_setAddress here _).bind fun _ c here => (at_putAddress here _).bind fun _ c here => ?_
    exact .pure here.toSafe ⟨_, here, rfl⟩
  · exact .pure here.toSafe ⟨_, here, rfl⟩

lemma at_shiftIntoRange (here : At os width centre c) (below : ℚ) :
    Ensures Safe (fun _ s => ∃ x, At os width x s) (shiftIntoRange below) c := by
  refine (at_idle (idle_theCentre c) here).bind fun _ c here => (at_idle (idle_need c) here).bind fun _ c here => ?_
  refine (at_idle (idle_need c) here).bind fun _ c here => (at_idle (idle_need c) here).bind fun _ c here => ?_
  refine .ite (fun _ => ?_) fun _ => .ite (fun _ => ?_) fun _ => .pure here.toSafe ⟨_, here⟩
  · refine .lift_bind here.toSafe fun _ _ => .lift_bind here.toSafe fun _ _ => ?_
    refine (at_setAddress here _).bind fun _ c here => (at_setCentre here _).mono fun _ _ here => ⟨_, here⟩
  · refine .lift_bind here.toSafe fun _ _ => .lift_bind here.toSafe fun _ _ => ?_
    refine (at_setCentre here _).bind fun _ c here => (at_setAddress here _).mono fun _ _ here => ⟨_, here⟩

lemma ensures_stop {S : Controller ℚ → Prop} {α : Type} {Q : α → Controller ℚ → Prop} (safe : S c) (text : String) :
    Ensures S Q (liftM (Bench.stop text : Work α) : Act (Controller ℚ) α) c := by
  intro b
  obtain ⟨b', stopped⟩ := carry_stop (α := α) text b
  rw [perform_work, stopped]
  exact ⟨safe, nofun⟩

lemma ensures_recentre {w y : ℚ} (here : At os (some w) (some y) c) (held : heldWidth os = some w)
    (fits : Fits (gridCentre y) w) : Ensures Safe (fun _ => Steady) (do
      setCentre (← putCentre (← theCentre))
      putAddress (← theAddress) : Act (Controller ℚ) Unit) c := by
  refine (ensures_theCentre here.toSafe).bind fun z s known => ?_
  obtain ⟨rfl, centred⟩ := known
  obtain rfl : y = z := Option.some.inj (here.centre_eq.symm.trans centred)
  refine (at_putCentre here fun _ w' same => ?_).bind ?_
  · obtain rfl : w = w' := Option.some.inj (held.symm.trans same)
    exact fits
  rintro _ c ⟨rfl, here⟩
  refine (at_setCentre here _).bind fun _ c here => (at_idle (idle_need c) here).bind fun _ c here => ?_
  exact (at_putAddress here _).mono fun _ _ here => here.steady held.symm

lemma ensures_keepWidth (here : At os width centre c) (known : width = heldWidth os) :
    Ensures Safe (fun _ => Steady) (keepWidth x) c := by
  refine (at_sweepTo here x).bind fun moved c there => ?_
  obtain ⟨os', here, held⟩ := there
  rw [← held] at known
  refine .ite (fun _ => .pure here.toSafe (here.steady known)) fun _ => ?_
  refine (at_setAddress here _).bind fun _ c here => (at_setCentre here _).bind fun _ c here => ?_
  refine (at_idle (idle_need c) here).bind fun _ c here => (at_shiftIntoRange here _).bind fun _ c there => ?_
  obtain ⟨centre, here⟩ := there
  refine (ensures_isSettable here.toSafe).bind fun settable s settled => ?_
  obtain ⟨rfl, settles⟩ := settled
  have stopped {text : String} : Ensures Safe (fun _ _ => False) (liftM (Bench.stop text : Work Unit)) s :=
    ensures_stop here.toSafe text
  refine .ite (fun _ => stopped.bind fun _ _ never => never.elim) fun fine => ?_
  obtain ⟨y, w, centred, remembered, inside⟩ := settles (by simpa using fine)
  obtain rfl : centre = some y := here.centre_eq.symm.trans centred
  obtain rfl : width = some w := here.remembered.symm.trans remembered
  have grid : OnGrid w := here.toSafe.width w (here.orders ▸ known.symm)
  have fits := inside.gridCentre grid
  refine (ensures_theCentre here.toSafe).bind fun z s read => ?_
  obtain ⟨rfl, centred⟩ := read
  obtain rfl : y = z := Option.some.inj (here.centre_eq.symm.trans centred)
  refine .lift_bind here.toSafe fun _ _ => .ite (fun _ => ?_) fun _ => ensures_recentre here known.symm fits
  refine (at_idle (idle_need _) here).bind fun _ c here => .lift_bind here.toSafe fun _ _ => ?_
  refine .ite (fun _ => .lift_bind here.toSafe fun n whole => ?_) fun _ => ?_
  · have same : (ofInt n : ℚ) * centreGrid = gridCentre y := by
      have scaled : y / (centreGrid : ℚ) = 20 * y := by
        rw [centreGrid_eq]
        ring
      rw [scaled, nearest_eq, Except.ok.injEq] at whole
      rw [gridCentre, whole, ofInt_eq, centreGrid_eq]
      ring
    refine (at_setCentre here _).bind fun _ c here => ensures_recentre here known.symm ?_
    rwa [same, gridCentre_gridCentre]
  · refine (at_idle (idle_need _) here).bind fun _ c here => (at_idle (idle_search _ _ _ c) here).bind fun _ c here => ?_
    refine (ensures_isSettable here.toSafe).bind fun _ s settled => ?_
    obtain ⟨rfl, -⟩ := settled
    exact .lift_bind here.toSafe fun _ _ => ensures_recentre here known.symm fits

/-! ### Fields -/

/-- What setting a field needs: room to set it aside, and room about it for the sweep width that is held if that is not
taken back first. -/
structure Room (x : ℚ) (c : Controller ℚ) : Prop where
  aside : AsideFits x
  far : c.known = true → (c.sweeping && c.ready) = false → ∀ y ∈ c.centre, guessWidth y |x - y| = .ok none →
    1 / 1000 < restAbove x → ∀ w ∈ heldWidth c.orders, Fits (asideCentre x) w

lemma ensures_changeField (here : At os width centre c) (known : width = heldWidth os) (aside : AsideFits x)
    (far : ∀ y ∈ centre, guessWidth y |x - y| = .ok none → 1 / 1000 < restAbove x →
      ∀ w ∈ heldWidth os, Fits (asideCentre x) w) : Ensures Safe (fun _ => Steady) (changeField x) c := by
  refine (at_sweepTo here x).bind fun moved c there => ?_
  obtain ⟨os', here, held⟩ := there
  refine .ite (fun _ => ensures_changeWidth here aside (held ▸ far)) fun _ => ?_
  exact .pure here.toSafe (here.steady (known.trans held.symm))

lemma ensures_setNext (steady : Steady c) (room : Room x c) : Ensures Safe (fun _ => Steady) (setNext x) c := by
  have here := steady.toSafe.at
  refine .lift_bind steady.toSafe fun _ _ => .get_bind (Ensures.ite (fun _ => ?_) fun known => ?_)
  · exact ensures_setFirst here room.aside
  · have far := room.far (by simpa using known)
    refine .ite (fun quiet => ?_) fun sweeping => .ite (fun ready => ?_) fun waiting => ?_
    · have quiet : c.sweeping = false := by simpa using quiet
      exact (ensures_changeWidth here room.aside (far (by rw [quiet, Bool.false_and]))).bind fun _ c => ensures_notes x
    · exact (ensures_keepWidth here steady.known).bind fun _ c => ensures_notes x
    · have waiting : c.ready = false := by simpa using waiting
      refine (ensures_changeField here steady.known room.aside (far ?_)).bind fun _ c => ensures_notes x
      rw [waiting, Bool.and_false]

lemma ensures_setField (steady : Steady c) (room : Room x c) : Ensures Safe (fun _ => Steady) (setField x) c := by
  refine (ensures_idle (idle_checkField x c) steady.toSafe).bind ?_
  rintro _ _ rfl
  refine .get_bind (Ensures.ite (fun _ => ensures_setNext steady room) fun _ => ?_)
  exact ensures_setFirst steady.toSafe.at room.aside

/-! ### Sweeps -/

lemma at_planSweep (here : At os width centre c) :
    Ensures Safe (fun _ s => ∃ w x, At os (some w) x s ∧ OnGrid w) planSweep c := by
  have noted {w x : Option ℚ} {c : Controller ℚ} (here : At os w x c) {f : Controller ℚ → Controller ℚ}
      (frame : (f c).mode = c.mode ∧ (f c).orders = c.orders) :
      Ensures Safe (fun _ s => ∃ w x, At os w x s) (modify f : Act (Controller ℚ) PUnit) c :=
    Ensures.modify (here.of_orders frame.1 frame.2) ⟨_, _, here.of_orders frame.1 frame.2, frame.2.trans here.orders, rfl, rfl⟩
  refine (noted here ⟨rfl, rfl⟩).bind fun _ c there => ?_
  obtain ⟨w, x, here⟩ := there
  refine (at_idle (idle_need c) here).bind fun start c here => (at_idle (idle_need c) here).bind fun step c here => ?_
  refine (noted here ⟨rfl, rfl⟩).bind fun _ c there => ?_
  obtain ⟨w, x, here⟩ := there
  -- Whether or not the width is divided, it is put on the grid afterwards.
  have rest {w x : Option ℚ} {c : Controller ℚ} (here : At os w x c) :
      Ensures Safe (fun _ s => ∃ w x, At os (some w) x s ∧ OnGrid w) (do
        setWidth (← onWidthGrid (← theWidth))
        let step := (← theWidth) / ofInt maxAddress
        modify fun c => { c with step := some step, fieldStep := c.increment.map fun n => ofInt n * step }
        shiftIntoRange (minField - ((← theCentre) - half * (← theWidth)))
        if !(← isSettable) then Bench.print s!"Cannot set field of {text start} G." : Act (Controller ℚ) Unit) c := by
    refine (at_idle (idle_need c) here).bind fun read c here => .lift_bind here.toSafe fun v grid => ?_
    obtain rfl : gridWidth read = v := Except.ok.inj ((onWidthGrid_eq read).symm.trans grid)
    refine (at_setWidth here _).bind fun _ c here => (at_idle (idle_need c) here).bind fun _ c here => ?_
    refine (Ensures.modify (Q := fun _ => At os (some (gridWidth read)) x) (here.of_orders rfl rfl)
      (here.frame rfl rfl rfl rfl)).bind fun _ c here => ?_
    refine (at_idle (idle_theCentre c) here).bind fun _ c here => (at_idle (idle_need c) here).bind fun _ c here => ?_
    refine (at_shiftIntoRange here _).bind fun _ c there => ?_
    obtain ⟨x, here⟩ := there
    refine (ensures_isSettable here.toSafe).bind fun _ s settled => ?_
    obtain ⟨rfl, -⟩ := settled
    refine (at_idle (Within.ite (Within.work _) (Within.pure _)) here).mono fun _ _ here => ?_
    exact ⟨_, _, here, onGrid_gridWidth read⟩
  refine .ite (fun _ => .lift_bind here.toSafe fun factor _ => ?_) fun _ => rest here
  refine (noted here ⟨rfl, rfl⟩).bind fun _ c there => ?_
  obtain ⟨w, x, here⟩ := there
  exact rest here

lemma leaves_note {f : Controller ℚ → Controller ℚ}
    (frame : (f c).mode = c.mode ∧ (f c).orders = c.orders ∧ (f c).width = c.width) :
    Within Leaves (modify f : Act (Controller ℚ) PUnit) c := Within.modify fun _ => ⟨frame.1, frame.2.1, frame.2.2⟩

lemma ensures_goToStart (here : At os width centre c) : Ensures Safe (fun _ => Steady) goToStart c := by
  refine (at_planSweep here).bind fun _ c there => ?_
  obtain ⟨w, x, here, grid⟩ := there
  refine (ensures_theCentre here.toSafe).bind fun y s read => ?_
  obtain ⟨rfl, centred⟩ := read
  obtain rfl : x = some y := here.centre_eq.symm.trans centred
  refine (at_idle (idle_need _) here).bind fun address c here => ?_
  refine (ensures_theWidth here.toSafe).bind fun w' s read => ?_
  obtain ⟨rfl, remembered⟩ := read
  obtain rfl : w = w' := Option.some.inj (here.remembered.symm.trans remembered)
  refine (at_idle (idle_search _ _ _ _) here).bind fun _ c here => ?_
  refine (ensures_isSettable here.toSafe).bind fun settable s settled => ?_
  obtain ⟨rfl, settles⟩ := settled
  refine .lift_bind here.toSafe fun _ fine => ?_
  obtain ⟨y', w', centred, remembered, inside⟩ := settles (ensure_eq_ok.mp fine)
  obtain rfl : y = y' := Option.some.inj (here.centre_eq.symm.trans centred)
  obtain rfl : w = w' := Option.some.inj (here.remembered.symm.trans remembered)
  refine (at_putZero here).bind ?_
  rintro _ c ⟨-, here⟩
  refine (at_putCentre here fun inside w held => Option.some.inj held ▸ inside).bind ?_
  rintro _ c ⟨-, here⟩
  refine (at_putAddress here address).bind fun _ c here => ?_
  refine (at_putWidth here fun z same => ?_).bind ?_
  · obtain rfl : gridCentre y = z := Option.some.inj same
    rw [gridWidth_of_onGrid grid]
    exact inside.gridCentre grid
  rintro _ c ⟨-, here⟩
  have steady : Steady c := here.steady (congrArg some (gridWidth_of_onGrid grid).symm)
  refine (ensures_steady (leaves_idle (idle_checkLights c)) steady).bind fun _ c steady => ?_
  refine (ensures_steady (leaves_note ⟨rfl, rfl, rfl⟩) steady).bind fun _ c steady => ?_
  refine (ensures_steady (idle_need c) steady).bind fun _ c steady => ?_
  refine (ensures_steady (leaves_noteDeviation _ c) steady).bind fun _ c steady => ?_
  refine (ensures_steady (leaves_updateActual c) steady).bind fun _ c steady => ?_
  exact ensures_steady (leaves_note ⟨rfl, rfl, rfl⟩) steady

lemma ensures_setup (safe : Safe c) (start step : ℚ) (stepText : String) :
    Ensures Safe (fun _ => Steady) (setup start step stepText) c := by
  have begun (start step : ℚ) {c : Controller ℚ} (safe : Safe c) : Ensures Safe (fun _ => Steady) (do
      modify fun c => { c with start := some start, fieldStep := some step, ready := true }
      Act.rescue (· == .pipeBroken) goToStart fun _ => goToStart
      let c ← get
      if le (decimal 1 2) (← quotient c.deviation (← theFieldStep)) then
        Bench.message s!"Maximum field error during experiment was {text (c.deviation * ofInt 1000)} mG."
        modify fun c => { c with deviation := zero, known := false } : Act (Controller ℚ) Unit) c := by
    refine (Ensures.modify (Q := fun _ => Safe) (safe.of_orders rfl rfl) (safe.of_orders rfl rfl)).bind fun _ c safe => ?_
    refine (Ensures.rescue (ensures_goToStart safe.at) fun _ _ safe => ensures_goToStart safe.at).bind fun _ c steady => ?_
    refine .get_bind ((ensures_steady (idle_need c) steady).bind fun _ c steady => ?_)
    refine .lift_bind steady.toSafe fun _ _ => .ite (fun _ => ?_) fun _ => .pure steady.toSafe steady
    refine (ensures_steady (leaves_idle (Within.work _)) steady).bind fun _ c steady => ?_
    exact ensures_steady (leaves_note ⟨rfl, rfl, rfl⟩) steady
  have refused : Ensures Safe (fun _ _ => False) (refuseStep stepText) c := ensures_stop safe _
  refine .ite (fun _ => refused.bind fun _ _ never => never.elim) fun _ => ?_
  refine .lift_bind safe fun _ _ => .lift_bind safe fun _ _ => .ite (fun _ => ?_) fun _ => ?_
  · refine .lift_bind safe fun _ _ => (ensures_idle (Within.work _) safe).bind ?_
    rintro _ _ rfl
    exact (Ensures.pure (Q := fun _ => Safe) safe safe).bind fun _ _ => begun _ _
  · exact (Ensures.pure (Q := fun _ => Safe) safe safe).bind fun _ _ => begun _ _

lemma ensures_moved {w : ℚ} (here : At os (some w) centre c) (held : heldWidth os = some w) (up : Bool) (y : ℚ)
    (address : Address ℚ) : Ensures Safe (fun _ => Steady) (do
      search y address up
      ensure (addressOk address.value && !sweepLeaves y w) outOfRange
      setAddress address
      putAddress address
      if up then throw .noName
      setCentre (← putCentre y) : Act (Controller ℚ) Unit) c := by
  refine (at_idle (idle_search _ _ _ c) here).bind fun _ c here => .lift_bind here.toSafe fun _ fine => ?_
  have fits : Fits y w := fits_iff.mpr (by simpa using (Bool.and_eq_true_iff.mp (ensure_eq_ok.mp fine)).2)
  have grid : OnGrid w := here.toSafe.width w (here.orders ▸ held)
  refine (at_setAddress here _).bind fun _ c here => (at_putAddress here _).bind fun _ c here => ?_
  refine .ite (fun _ => ?_) fun _ => ?_
  · exact (Ensures.throw (Q := fun _ _ => False) _ here.toSafe).bind fun _ _ never => never.elim
  · refine (at_putCentre here fun _ w' same => ?_).bind ?_
    · obtain rfl : w = w' := Option.some.inj (held.symm.trans same)
      exact fits.gridCentre grid
    · rintro _ c ⟨rfl, here⟩
      exact (at_setCentre here _).mono fun _ _ here => here.steady held.symm

lemma ensures_moveCentre (here : At os width centre c) (known : width = heldWidth os) (up : Bool) :
    Ensures Safe (fun _ => Steady) (moveCentre up) c := by
  refine (at_idle (idle_theCentre c) here).bind fun y c here => ?_
  refine (ensures_theWidth here.toSafe).bind fun w s read => ?_
  obtain ⟨rfl, remembered⟩ := read
  obtain rfl : width = some w := here.remembered.symm.trans remembered
  refine (at_idle (idle_need _) here).bind fun step c here => (at_idle (idle_need c) here).bind fun address c here => ?_
  refine (at_idle (idle_need c) here).bind fun actual c here => (at_idle (idle_need c) here).bind fun increment c here => ?_
  refine .ite (fun _ => ?_) fun _ => .lift_bind here.toSafe fun _ _ => .lift_bind here.toSafe fun _ _ => ?_
  all_goals
    refine (Ensures.pure (Q := fun _ => At os (some w) centre) here.toSafe here).bind fun steps c here => ?_
    refine (at_idle (idle_need c) here).bind fun _ c here => ?_
    refine .ite (fun _ => (at_idle (Within.work _) here).bind fun _ c here => ?_) fun _ => ?_
  all_goals
    refine .ite (fun _ => (at_idle (Within.work _) here).bind fun _ c here => ?_) fun _ => ?_
  all_goals exact ensures_moved here known.symm up _ _

lemma ensures_sweep (steady : Steady c) (up : Bool) : Ensures Safe (fun _ => Steady) (sweep up) c := by
  have noted (wanted : ℚ) {c : Controller ℚ} (steady : Steady c) : Ensures Safe (fun _ => Steady) (do
      checkLights
      noteDeviation wanted
      updateActual
      theActual : Act (Controller ℚ) ℚ) c := by
    refine (ensures_steady (leaves_idle (idle_checkLights c)) steady).bind fun _ c steady => ?_
    refine (ensures_steady (leaves_noteDeviation wanted c) steady).bind fun _ c steady => ?_
    refine (ensures_steady (leaves_updateActual c) steady).bind fun _ c steady => ?_
    exact ensures_steady (idle_need c) steady
  have unknown : Ensures Safe (fun _ _ => False) (liftM (Bench.stop sweepUnknown : Work Unit)) c :=
    ensures_stop steady.toSafe sweepUnknown
  refine .get_bind (Ensures.ite (fun _ => unknown.bind fun _ _ never => never.elim) fun _ => ?_)
  refine (ensures_steady (idle_need c) steady).bind fun actual c steady => ?_
  refine (ensures_steady (idle_need c) steady).bind fun fieldStep c steady => ?_
  refine (ensures_steady (leaves_idle (idle_checkField _ c)) steady).bind fun _ c steady => ?_
  refine (ensures_steady (idle_need c) steady).bind fun increment c steady => ?_
  refine (ensures_steady (idle_need c) steady).bind fun address c steady => ?_
  refine .ite (fun _ => ?_) fun _ => ?_
  · refine (at_setAddress steady.toSafe.at _).bind fun _ s here => (at_putAddress here _).bind fun _ s here => ?_
    exact noted _ (here.steady steady.known)
  · exact (ensures_moveCentre steady.toSafe.at steady.known up).bind fun _ _ => noted _

end Controller

end EprBench.Magnet
