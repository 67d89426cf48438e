import EprBench.Line.Link
import EprBench.Magnet.Search

/-! The field controller of a magnet. It holds a centre field, a sweep width and a sweep address; a field
is set by as few changes of these as possible. -/
namespace EprBench.Magnet

open Quantity

inductive Order (α : Type) where
  | width (x : α)
  | centre (x : α)
  | address (a : Address α)

structure Controller (α : Type) where
  mode : Mode
  line : Line.Parameters
  connected : Option Bool := none
  actual : Option α := none
  known : Bool := false
  centre : Option α := none
  centred : Bool := false
  width : Option α := none
  address : Option (Address α) := none
  /-- Field from one sweep address to the next. -/
  step : Option α := none
  sweeping : Bool := false
  /-- Sweep addresses in one step of a sweep. -/
  increment : Option Int := none
  start : Option α := none
  fieldStep : Option α := none
  ready : Bool := false
  deviation : α
  orders : List (Order α) := []

namespace Controller

variable {α : Type} [Quantity α]

def need {β : Type} (x : Option β) : Outcome β :=
  match x with
  | some v => .ok v
  | none => .error .wrongType

def theCentre : Act (Controller α) α := do
  match (← get).centre, (← get).centred with
  | some c, _ => return c
  | none, true => throw .wrongType
  | none, false => throw .noMember

def theWidth : Act (Controller α) α := do need (← get).width
def theStep : Act (Controller α) α := do need (← get).step
def theAddress : Act (Controller α) (Address α) := do need (← get).address
def theActual : Act (Controller α) α := do need (← get).actual
def theFieldStep : Act (Controller α) α := do need (← get).fieldStep

/-! ### Talking to the controller -/

def guarded {β : Type} (x : Act (Controller α) β) : Act (Controller α) β :=
  Act.rescue (fun _ => true) x fun _ => throw .noName

def write (command : String) : Act (Controller α) Unit := do
  let c ← get
  match c.connected with
  | none => throw .noMember
  | some true => guarded (Bench.writing (.write (.text (command ++ c.line.writeEnd))))
  | some false => Bench.stop "No connection"

def query (command : String) : Act (Controller α) String := do
  let c ← get
  if c.line.interface == "gpib" then
    guarded do
      if c.connected.isNone then throw .noMember
      Bench.writing (.write (.text (command ++ c.line.readEnd)))
      Line.readText
  else Bench.stop "No connection"

def Order.text : Order α → String
  | .width x => "SW" ++ places x
  | .centre x => "CF" ++ places x
  | .address a => "SS" ++ places a.value

/-- Sends an order twice, to be sure that it arrives. A rehearsal sends nothing. -/
def give (o : Order α) : Act (Controller α) Unit := do
  if (← get).mode == .live then
    modify fun c => { c with orders := o :: c.orders }
    write (Order.text o)
    write (Order.text o)

def widthRefused : String := "Incorrect sweep width"
def addressRefused : String := "Incorrect sweep address"

def putWidth (x : α) : Act (Controller α) α := do
  ensure (le zero x && le x maxWidth) widthRefused
  let x ← onWidthGrid x
  if (← nearest (x / widthGrid)) != 0 then
    modify fun c => { c with step := some (x / ofInt maxAddress), sweeping := true }
  else modify fun c => { c with step := some zero, sweeping := false }
  give (.width x)
  return x

def putCentre (x : α) : Act (Controller α) α := do
  let x ← onCentreGrid x
  ensure (inField x) "Incorrect center field"
  give (.centre x)
  return x

def putAddress (a : Address α) : Act (Controller α) Unit := do
  ensure (addressOk a.value) addressRefused
  give (.address a)

def awaitBalance : Nat → Act (Controller α) Unit
  | 0 => return
  | n + 1 => do
    let answer ← query "LE"
    if answer == "LE2\r\n" then Bench.message "Probehead thermostat not in equilibrilum."
    if answer == "LE1\r\n" then
      Bench.sleep 1
      awaitBalance n

def checkLights : Act (Controller α) Unit := do
  if (← get).mode == .live then awaitBalance ((← getThe Bench).replies.length + 1)

def currentField : Act (Controller α) α := do
  return (← theCentre) + ((← theAddress).value - ofInt centreAddress) * (← theStep)

def noteDeviation (field : α) : Act (Controller α) Unit := do
  let d := abs (field - (← theCentre) - ((← theAddress).value - ofInt centreAddress) * (← theStep))
  if lt (← get).deviation d then modify fun c => { c with deviation := d }

def updateActual : Act (Controller α) Unit := do
  let f ← currentField
  modify fun c => { c with actual := some f }

def checkField (field : α) : Act (Controller α) Unit := do
  match (← get).mode with
  | .live =>
    if lt maxField field then
      Bench.stop s!"Field of {text field} G is too high, maximum field is {text (maxField : α)} G."
    if lt field minField then
      Bench.stop s!"Field of {text field} G is too low, minimum field is {text (minField : α)} G."
  | .rehearsal => ensure (inField field) s!"Field of {text field} G is unavailable"

/-! ### Setting a field -/

def setCentre (x : α) : Act (Controller α) Unit := modify fun c => { c with centre := some x, centred := true }
def setWidth (x : α) : Act (Controller α) Unit := modify fun c => { c with width := some x }
def setAddress (a : Address α) : Act (Controller α) Unit := modify fun c => { c with address := some a }

def setAside (field rest : α) : Act (Controller α) Unit := do
  setCentre (← putCentre (field - rest))
  setAddress (.step (centreAddress + 1))
  putAddress (.step (centreAddress + 1))
  setWidth (← putWidth (ofInt maxAddress * rest))

def restOf (field : α) : Outcome α := return ofInt (← gridRest field) * minStep

def setFirst (field : α) : Act (Controller α) Unit := do
  modify fun c => { c with actual := some field, known := true }
  let rest ← restOf field
  if le rest (ofInt 2 * minStep) then
    putAddress (.step centreAddress)
    setAddress (.step centreAddress)
    setWidth (← putWidth zero)
    setCentre (← putCentre field)
  else
    let _ ← putWidth zero
    setAside field rest
  checkLights
  noteDeviation field
  updateActual

def search (centre : α) (address : Address α) (up : Bool) : Act (Controller α) Unit := do
  let _ ← bestFit (← theWidth) (← theStep) centre address.value searchDepth up 2

/-- Sets a field with a new sweep width that is chosen for the distance to go. -/
def changeWidth (field : α) : Act (Controller α) Unit := do
  let centre ← theCentre
  match ← guessWidth centre (abs (field - centre)) with
  | none =>
    modify fun c => { c with sweeping := false }
    let rest ← restOf field
    if lt minStep rest then setAside field rest
    else
      setWidth (← putWidth zero)
      setCentre (← putCentre field)
  | some (width, step) =>
    modify fun c => { c with width := some width, step := some step, sweeping := true }
    let address := Address.add (.step centreAddress) (← nearest (← quotient (field - centre) step))
    setAddress address
    search centre address (startsUp centre)
    let missed := lt resolution (field - (centre + (address.value - ofInt centreAddress) * step))
    if !addressOk address.value || sweepLeaves centre width || missed then
      let rest ← restOf field
      let _ ← putWidth zero
      setAside field rest
    else
      let _ ← putWidth zero
      setCentre (← putCentre centre)
      putAddress address
      setWidth (← putWidth width)

def sweepTo (field : α) : Act (Controller α) Bool := do
  let actual ← theActual
  let step ← theStep
  let steps ← nearest (← quotient (field - actual) step)
  let off := abs (abs (field - actual) - step * ofInt steps.natAbs)
  let address := (← theAddress).add steps
  if lt off (decimal 1 2 * step) && addressOk address.value then
    setAddress address
    putAddress address
    return true
  return false

/-- Sets a field by a sweep address if one fits, or else with a new sweep width. -/
def changeField (field : α) : Act (Controller α) Unit := do
  if !(← sweepTo field) then changeWidth field

/-- Moves the centre field by whole sweep steps into the range where the sweep fits; the address goes the
other way. `below` is how far the sweep goes below the range, when it does. -/
def shiftIntoRange (below : α) : Act (Controller α) Unit := do
  let centre ← theCentre
  let width ← theWidth
  let step ← theStep
  let address ← theAddress
  if lt maxField (centre + half * width) then
    let n ← ceiling (← quotient (centre + half * width - maxField) step)
    setAddress (address.add n)
    setCentre (centre - ofInt n * step)
  else if lt (centre - half * width) minField then
    let n ← ceiling (← quotient below step)
    setCentre (centre + ofInt n * step)
    setAddress (address.add (-n))

def isSettable : Act (Controller α) Bool := do
  return addressOk (← theAddress).value && !sweepLeaves (← theCentre) (← theWidth)

def keepWidth (field : α) : Act (Controller α) Unit := do
  if ← sweepTo field then return
  setAddress (.step centreAddress)
  setCentre field
  shiftIntoRange (minField + half * (← theWidth) - field)
  if !(← isSettable) then Bench.stop s!"Can't set field of {text field} G."
  let centre ← theCentre
  if (← gridRest centre) > 0 then
    if (← gridRest (← theStep)) == 0 then
      setCentre (ofInt (← nearest (centre / centreGrid)) * centreGrid)
    else
      search centre (← theAddress) (startsUp centre)
      ensure (← isSettable) "Incorrect parameters"
  setCentre (← putCentre (← theCentre))
  putAddress (← theAddress)

def setNext (field : α) : Act (Controller α) Unit := do
  ensure (inField field) "Incorrect parameters"
  let c ← get
  if !c.known then setFirst field
  else
    if !c.sweeping then changeWidth field
    else if c.ready then keepWidth field
    else changeField field
    checkLights
    noteDeviation field
    updateActual

def setField (field : α) : Act (Controller α) Unit := do
  checkField field
  if (← get).known then setNext field else setFirst field

/-! ### Sweeps -/

def planSweep : Act (Controller α) Unit := do
  modify fun c => { c with centre := c.start, centred := true }
  let start ← need (← get).start
  let fieldStep ← theFieldStep
  let width := ofInt maxAddress * fieldStep
  modify fun c => { c with
    width := some width, address := some (.step centreAddress), step := some fieldStep
    increment := some 1 }
  if lt maxWidth width then
    let factor ← ceiling (width / maxWidth)
    modify fun c => { c with
      width := some (width / ofInt factor), step := some (fieldStep / ofInt factor), increment := some factor }
  setWidth (← onWidthGrid (← theWidth))
  let step := (← theWidth) / ofInt maxAddress
  modify fun c => { c with step := some step, fieldStep := c.increment.map fun n => ofInt n * step }
  shiftIntoRange (minField - ((← theCentre) - half * (← theWidth)))
  if !(← isSettable) then Bench.print s!"Cannot set field of {text start} G."

def goToStart : Act (Controller α) Unit := do
  planSweep
  let centre ← theCentre
  let address ← theAddress
  let width ← theWidth
  search centre address (startsUp centre)
  ensure (← isSettable) "Incorrect parameters"
  let _ ← putWidth zero
  let _ ← putCentre centre
  putAddress address
  let _ ← putWidth width
  checkLights
  modify fun c => { c with sweeping := true }
  noteDeviation (← need (← get).start)
  updateActual
  modify fun c => { c with known := true }

def startOnGrid (field : α) : Act (Controller α) α := do
  let start := ofInt (← inSteps field) * minStep
  checkField start
  return start

def refuseStep (stepText : String) : Act (Controller α) Unit :=
  Bench.stop s!"Field sweep step size {stepText} G too small                 , minimum is {text (minStep : α)} G."

def setup (start step : α) (stepText : String) : Act (Controller α) Unit := do
  if lt step minStep then refuseStep stepText
  let step := ofInt (← nearest (ofInt maxAddress * step / widthGrid)) * widthGrid / ofInt maxAddress
  let rest ← gridRest start
  let start ← if rest > 0 then do
      let adjusted := ofInt (← nearest (start / centreGrid)) * centreGrid
      Bench.message s!"Readjusting start field to {text adjusted} G."
      pure adjusted
    else pure start
  modify fun c => { c with start := some start, fieldStep := some step, ready := true }
  Act.rescue (· == .pipeBroken) goToStart fun _ => goToStart
  let c ← get
  if le (decimal 1 2) (← quotient c.deviation (← theFieldStep)) then
    Bench.message s!"Maximum field error during experiment was {text (c.deviation * ofInt 1000)} mG."
    modify fun c => { c with deviation := zero, known := false }

def restart : Act (Controller α) (Option α) := do
  if !(← get).ready then
    Bench.stop "Start field has not been defined  - you must call the function magnet_setup() before."
  goToStart
  return (← get).actual

def sweepUnknown : String :=
  "No sweep step size has been set - you must call the function magnet_setup() to be able to do sweeps."

/-- Moves the centre field by a quarter of the sweep, or as far as the range allows, and the sweep address
back, so that the sweep can go on. -/
def moveCentre (up : Bool) : Act (Controller α) Unit := do
  let centre ← theCentre
  let width ← theWidth
  let step ← theStep
  let address ← theAddress
  let actual ← theActual
  let increment ← need (← get).increment
  let room := if up then maxField - centre else centre - minField
  let wide := decimal 75 2 * width
  let fits := if up then lt (centre + wide) maxField else lt minField (centre - wide)
  let steps : Address α ←
    if fits then pure (.between (ofInt maxAddress / ofInt 4))
    else pure (.step ((← floor (← quotient room step)) - centreAddress))
  let newAddress := moved address steps increment
  let diff := centre + (address.value - ofInt centreAddress) * step - actual
  let newCentre := if up then centre - diff + steps.value * step else centre - diff - steps.value * step
  let wanted := actual + (← theFieldStep)
  if up && (lt (ofInt maxAddress) newAddress.value || lt maxField (newCentre + half * width)) then
    Bench.message s!"Cannot set field of {text wanted} G."
  if !up && (lt newAddress.value zero || lt (newCentre - half * width) minField) then
    Bench.message s!"Can't set field of {text wanted} G."
  search newCentre newAddress up
  ensure (addressOk newAddress.value && !sweepLeaves newCentre width) outOfRange
  setAddress newAddress
  putAddress newAddress
  if up then throw .noName
  setCentre (← putCentre newCentre)
where
  moved (address steps : Address α) (increment : Int) : Address α :=
    match address, steps with
    | .step a, .step s => .step (if up then a - s + increment else a + s - increment)
    | a, s =>
      .between (if up then a.value - s.value + ofInt increment else a.value + s.value - ofInt increment)

def sweep (up : Bool) : Act (Controller α) α := do
  if !(← get).ready then Bench.stop sweepUnknown
  let actual ← theActual
  let fieldStep ← theFieldStep
  let wanted := if up then actual + fieldStep else actual - fieldStep
  checkField wanted
  let increment ← need (← get).increment
  let address := (← theAddress).add (if up then increment else -increment)
  let inside := if up then le address.value (ofInt maxAddress) else le zero address.value
  if inside then
    setAddress address
    putAddress address
  else moveCentre up
  checkLights
  noteDeviation wanted
  updateActual
  theActual

def field : Act (Controller α) (Option α) := do
  let c ← get
  if c.mode == .live && !c.known then Bench.stop "Field hasn't been set yet and is thus still unknown."
  return c.actual

def nearestFieldStep (x : α) : Act (Controller α) α := do
  if lt x zero then
    let reason := "Invalid negative field step size."
    match (← get).mode with
    | .live => Bench.stop reason
    | .rehearsal => throw (.refused reason)
  let n ← nearest (x / resolution)
  return ofInt (if n == 0 then 1 else n) * resolution

end Controller
end EprBench.Magnet
