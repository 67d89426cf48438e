import EprBench.Proofs.Magnet.Range
import EprBench.Proofs.Magnet.Wire

/-! Whole sessions with a field controller: the sweep that it holds stays in the field range, as long as there is room
for the fields that are set. -/
namespace EprBench.Magnet

open Quantity

/-- What can be asked of a field controller. -/
inductive Call where
  | setup (start step : ℚ) (stepText : String)
  | set (field : ℚ)
  | read
  | sweep (up : Bool)

namespace Call

def act : Call → Act (Controller ℚ) Unit
  | .setup start step stepText => do
    let first ← Controller.startOnGrid start
    Controller.setup first step stepText
  | .set x => do
    Controller.setField x
    let _ ← Controller.field
  | .read => do let _ ← Controller.field
  | .sweep up => do let _ ← Controller.sweep up

/-- There is room for the field that is set, if one is. -/
def HasRoom : Call → Controller ℚ → Prop
  | .set x, c => Controller.Room x c
  | _, _ => True

/-- Setting up a sweep does not build on the sweep width that is remembered. -/
def startsOver : Call → Bool
  | .setup .. => true
  | _ => false

end Call

namespace Controller

instance (x : ℚ) (c : Controller ℚ) : Decidable (Room x c) :=
  decidable_of_iff (AsideFits x ∧ (c.known = true → (c.sweeping && c.ready) = false → ∀ y ∈ c.centre,
    guessWidth y |x - y| = .ok none → 1 / 1000 < restAbove x → ∀ w ∈ heldWidth c.orders, Fits (asideCentre x) w))
    ⟨fun h => ⟨h.1, h.2⟩, fun h => ⟨h.aside, h.far⟩⟩

/-- The sweep width that is remembered is the one that is held. -/
def Remembers (c : Controller ℚ) : Prop := c.width = heldWidth c.orders

instance (c : Controller ℚ) : Decidable c.Remembers := inferInstanceAs (Decidable (_ = _))

end Controller

open Controller

instance (call : Call) (c : Controller ℚ) : Decidable (call.HasRoom c) :=
  match call with
  | .set x => inferInstanceAs (Decidable (Room x c))
  | .setup .. => isTrue trivial
  | .read => isTrue trivial
  | .sweep _ => isTrue trivial

variable {c : Controller ℚ} {b : Bench} {call : Call} {calls : List Call}

/-! ### One call -/

lemma ensures_field (steady : Steady c) : Ensures Safe (fun _ => Steady) (do let _ ← field : Act (Controller ℚ) Unit) c := by
  have leaves : Within Leaves (do let _ ← field : Act (Controller ℚ) Unit) c := by
    refine .bind (.get_bind (Within.ite ?_ (Within.pure _))) fun _ _ => .pure _
    exact (leaves_idle (Within.work _)).bind fun _ _ => .pure _
  exact ensures_steady leaves steady

lemma ensures_startOver (safe : Safe c) (start step : ℚ) (stepText : String) :
    Ensures Safe (fun _ => Steady) (Call.setup start step stepText).act c := by
  refine .bind (Q := fun _ => Safe) (Ensures.lift_bind safe fun _ _ => ?_) fun first c safe => ?_
  · refine (ensures_idle (idle_checkField _ c) safe).bind ?_
    rintro _ _ rfl
    exact .pure safe safe
  · exact ensures_setup safe first step stepText

lemma Call.ensures_act (safe : Safe c) (ready : c.Remembers ∨ call.startsOver = true) (room : call.HasRoom c) :
    Ensures Safe (fun _ => Steady) call.act c := by
  cases call with
  | setup start step stepText => exact ensures_startOver safe start step stepText
  | set x =>
    obtain known | never := ready
    · exact (ensures_setField ⟨safe, known⟩ room).bind fun _ _ steady => ensures_field steady
    · cases never
  | read =>
    obtain known | never := ready
    · exact ensures_field ⟨safe, known⟩
    · cases never
  | sweep up =>
    obtain known | never := ready
    · exact (ensures_sweep ⟨safe, known⟩ up).bind fun _ _ steady => .pure steady.toSafe steady
    · cases never

instance Call.tells_act (call : Call) : Obeys Tells call.act := by
  cases call <;> dsimp only [Call.act] <;> infer_instance

/-! ### Whole sessions -/

def after : List Call → Controller ℚ → Bench → Controller ℚ × Bench
  | [], c, b => (c, b)
  | call :: calls, c, b => after calls (perform call.act c b).1.2 (perform call.act c b).2

/-- The remembered sweep width can be relied on, or the next call does not need it. -/
def Relies (calls : List Call) (c : Controller ℚ) : Prop := c.Remembers ∨ ∀ next ∈ calls.head?, next.startsOver = true

instance (calls : List Call) (c : Controller ℚ) : Decidable (Relies calls c) := inferInstanceAs (Decidable (_ ∨ _))

/-- There is room for each field that is set, and a call that fails does not leave a wrong sweep width for the next one. -/
def Roomy : List Call → Controller ℚ → Bench → Prop
  | [], _, _ => True
  | call :: calls, c, b =>
    call.HasRoom c ∧ ((answer call.act c b).isOk = false → Relies calls (perform call.act c b).1.2) ∧
      Roomy calls (perform call.act c b).1.2 (perform call.act c b).2

def decideRoomy : (calls : List Call) → (c : Controller ℚ) → (b : Bench) → Decidable (Roomy calls c b)
  | [], _, _ => isTrue trivial
  | call :: calls, c, b =>
    have := decideRoomy calls (perform call.act c b).1.2 (perform call.act c b).2
    inferInstanceAs (Decidable (call.HasRoom c ∧ ((answer call.act c b).isOk = false → Relies calls _) ∧ _))

instance (calls : List Call) (c : Controller ℚ) (b : Bench) : Decidable (Roomy calls c b) := decideRoomy calls c b

lemma safe_after (safe : Safe c) (relies : Relies calls c) (roomy : Roomy calls c b) : Safe (after calls c b).1 := by
  induction calls generalizing c b with
  | nil => exact safe
  | cons call calls ih =>
    obtain ⟨room, failed, later⟩ := roomy
    have ready : c.Remembers ∨ call.startsOver = true := relies.imp_right fun next => next call rfl
    obtain ⟨kept, steady⟩ := call.ensures_act safe ready room b
    refine ih kept ?_ later
    -- A call that succeeds leaves the right width behind.
    rcases ran : answer call.act c b with e | ⟨⟩
    · exact failed (by rw [ran]; rfl)
    · exact .inl (steady () ran).known

lemma tells_after (calls : List Call) (c : Controller ℚ) (b : Bench) : Tells (c, b) (after calls c b) := by
  induction calls generalizing c b with
  | nil => exact Std.Refl.refl _
  | cons call calls ih => exact IsTrans.trans _ _ _ (call.tells_act.within c b) (ih _ _)

def fresh (line : Line.Parameters) : Controller ℚ := { mode := .live, line, connected := some true, deviation := 0 }

/-- In a roomy session the sweep stays in the field range after every order, and just the orders go over the line. -/
theorem sweep_stays_in_range (line : Line.Parameters) {b : Bench} (quiet : orderLines b = []) {calls : List Call}
    (roomy : Roomy calls (fresh line) b) : Kept (after calls (fresh line) b).1.orders ∧
      OnWire line (after calls (fresh line) b).1.orders (orderLines (after calls (fresh line) b).2) := by
  have safe : Safe (fresh line) := ⟨rfl, trivial, fun _ never => (nomatch never), fun _ never => (nomatch never)⟩
  have tells := tells_after calls (fresh line) b
  have line_eq : (after calls (fresh line) b).1.line = line := tells.line
  have wire := tells.told rfl quiet
  rw [line_eq] at wire
  exact ⟨(safe_after safe (Or.inl rfl) roomy).kept, wire⟩

def busLine : Line.Parameters where
  name := "BH-15"
  interface := "gpib"
  timeout := .int 3000
  board := 0
  gpibAddress := 1
  serialAddress := "ASRL/dev/ttyUSB0::INSTR"
  baudRate := 9600
  dataBits := 8
  parity := .text "none"
  stopBits := .text "one"
  writeEnd := "\n"
  readEnd := "\r\n"
  ethernetAddress := ""

/-- A session in which fields on and off the grid are set and a sweep goes up and down. The sweep that is asked for before one
is set up fails. -/
def survey : List Call := [
  .set (34801 / 10),
  .set (3480123 / 1000),
  .sweep true,
  .set (34805 / 10),
  .set 3500,
  .setup 3500 (1 / 10) "0.1",
  .sweep true,
  .sweep true,
  .sweep false,
  .set (36001 / 10),
  .read]

theorem survey_stays_in_range : Roomy survey (fresh busLine) {} ∧ Kept (after survey (fresh busLine) {}).1.orders ∧
      OnWire busLine (after survey (fresh busLine) {}).1.orders (orderLines (after survey (fresh busLine) {}).2) := by
  have roomy : Roomy survey (fresh busLine) {} := by decide +kernel
  exact ⟨roomy, sweep_stays_in_range busLine rfl roomy⟩

/-- A field near the end of the range that is off the grid is set by a sweep about 22999.95 G that is 163.8 G wide. Far from the
field that was set before, the centre field is moved while the old sweep width is still held. -/
theorem field_range_is_left : ¬ Kept (after [.set (2299999 / 100)] (fresh busLine) {}).1.orders ∧
    ¬ Kept (after [.set 11000, .set 11500, .set (2200003 / 100)] (fresh busLine) {}).1.orders := by
  decide +kernel

/-! ### Steps past the addresses -/

namespace Controller

deriving instance DecidableEq for Address

def afterSetUp (start step : ℚ) (stepText : String) : Controller ℚ × Bench :=
  ((perform (Call.setup start step stepText).act (fresh busLine) {}).1.2,
    (perform (Call.setup start step stepText).act (fresh busLine) {}).2)

def sentAddresses (os : List (Order ℚ)) : List ℚ :=
  os.filterMap fun
    | .address a => some a.value
    | _ => none

/-- From 10000 G a step up by 8000 G passes the highest address and fails. From 14000 G a step down by 8004 G passes the
lowest one, and the address 1022.75 is sent. -/
theorem steps_past_addresses_go_wrong :
    answer (sweep true) (afterSetUp 10000 8000 "8000").1 (afterSetUp 10000 8000 "8000").2 = .error .noName ∧
      sentAddresses (perform (sweep false) (afterSetUp 14000 8004 "8004").1 (afterSetUp 14000 8004 "8004").2).1.2.orders =
        [4091 / 4, 2048] := by
  decide +kernel

end Controller

end EprBench.Magnet
