import EprBench.Command
import EprBench.Factory
import EprBench.Magnet.Controller
import EprBench.Value.Arithmetic

/-! The commands of the field controller. -/
namespace EprBench.Magnet

open Value

namespace Controller

def optional (x : Option Float) : Value := (x.map Value.float).getD .nothing

def Address.cell : Address Float → Value
  | .step n => .int n
  | .between x => .float x

def addressOf (v : Value) : Outcome (Address Float) := do
  match ← operand v with
  | .int n => return .step n
  | x => return .between (← x.real)

def real (v : Value) : Outcome Float := do (← operand v).real

def setupOf (start v : Value) : Act (Controller Float) Unit := do
  let first ← startOnGrid (← real start)
  if v.isArray then
    if ← v.lt (.float minStep) then refuseStep v.display
    throw .wrongType
  setup first (← real v) v.display

def putWidthOf (v : Value) : Act (Controller Float) Value := do
  if v.isArray then
    ensure (← within 0 (.float maxWidth) v) widthRefused
    throw .wrongType
  return .float (← putWidth (← real v))

def putAddressOf (v : Value) : Act (Controller Float) Value := do
  if v.isArray then
    ensure (← within 0 (.int maxAddress) v) addressRefused
    if (← get).mode == .live then throw .wrongType
  else putAddress (← addressOf v)
  return v

def noteDeviationOf (v : Value) : Act (Controller Float) Unit := do
  let _ ← theCentre
  if v.isArray && v.cellCount != 1 then
    if v.cellCount > 1 then throw .wrongValue
  else noteDeviation (← if v.isArray then v.toReal else real v)

def searchOf (centre address tolerance : Value) (up : Bool) : Act (Controller Float) Value := do
  let a := (← addressOf address).value
  ensure (addressOk a) outOfRange
  let c ← real centre
  let step ← theStep
  ensure (inField (c - Quantity.half * step) && inField (c + Quantity.half * step)) outOfRange
  if a == (if up then Decimal.ofInt maxAddress else 0) then return .int maxAddedSteps
  let steps ← Quantity.floor (← real tolerance)
  return .int (← bestFit (← theWidth) step c a searchDepth up steps)

def commands : List (Command (Controller Float)) := [
  .plain "magnet_name" (return .text (← get).line.name),
  .fixed "magnet_setup" ["start_field", "field_step"] fun
    | [start, step] => do
      setupOf start step
      return .nothing
    | _ => throw .wrongType,
  .plain "magnet_sweep_up" (return .float (← sweep true)),
  .plain "magnet_sweep_down" (return .float (← sweep false)),
  .plain "magnet_reset_field" (return optional (← restart)),
  .variadic "magnet_field" fun
    | [] => return optional (← field)
    | [v] => do
      setField (← v.toReal)
      return optional (← field)
    | _ => wrongArgument "Incorrect argument" true,
  .variadic "magnet_field_step_size" fun
    | [] => return .float resolution
    | [v] => do return .float (← nearestFieldStep (← v.toReal))
    | _ => wrongArgument "Invalid argument" false,
  .plain "get_field" (return optional (← field)),
  .unary "set_field" "field" fun v => do
    setField (← v.toReal)
    return optional (← get).actual,
  .unary "field_check" "field" fun v => do
    checkField (← v.toReal)
    return .nothing,
  .unary "fc_guess_sw" "field_diff" fun v => do
    if v.isArray && v.cellCount > 1 then throw .wrongValue
    let diff ← if v.isArray then v.toReal else real v
    match ← guess diff with
    | none => return .bool false
    | some (width, step) =>
      if v.isArray then throw .wrongType
      modify fun c => { c with width := some width, step := some step, address := some (.step centreAddress) }
      return .bool true,
  .unary "fc_set_sw" "sweep_width" putWidthOf,
  .unary "fc_set_cf" "center_field" fun v => do return .float (← putCentre (← real v)),
  .unary "fc_set_swa" "sweep_address" putAddressOf,
  .unary "fc_deviation" "field" fun v => do
    noteDeviationOf v
    return .nothing,
  setting "fc_initial_field_setup" setFirst true,
  setting "fc_set_field" setNext true,
  setting "fc_change_field_and_set_sw" changeWidth false,
  setting "fc_change_field_and_sw" changeField false,
  setting "fc_change_field_and_keep_sw" keepWidth false,
  .plain "fc_start_field" do
    goToStart
    return .nothing,
  .fixed "fc_best_fit_search" ["cf", "swa", "dire", "fac"] fun
    | [centre, address, up, tolerance] => do searchOf centre address tolerance (← up.equals (.bool true))
    | _ => throw .wrongType,
  .unary "device_write" "command" fun v => do
    write v.display
    return .nothing,
  .unary "device_query" "command" fun v => do return .text (← query v.display),
  .plain "fc_test_leds" do
    checkLights
    return .nothing]
where
  setting (name : String) (put : Float → Act (Controller Float) Unit) (tells : Bool) : Command (Controller Float) :=
    .unary name "field" fun v => do
      put (← v.toReal)
      let c ← get
      return if tells then optional c.actual else .nothing
  wrongArgument (text : String) (refuses : Bool) : Act (Controller Float) Value := do
    match (← get).mode with
    | .live => Bench.stop text
    | .rehearsal => if refuses then throw (.refused text) else return .nothing
  guess (diff : Float) : Act (Controller Float) (Option (Float × Float)) := do
    match (← get).centre with
    | some c => guessWidth c diff
    | none =>
      if Quantity.lt (diff * Quantity.ofInt maxAddress) widthGrid || Quantity.lt (maxWidth / 2) diff then return none
      throw .noMember

def view (c : Controller Float) : String → Option Value
  | "act_field" => some (optional c.actual)
  | "is_act_field" => some (.bool c.known)
  | "sf" => some .nothing
  | "cf" => if c.centred then some (optional c.centre) else none
  | "sw" => some (optional c.width)
  | "swa" => some ((c.address.map Address.cell).getD .nothing)
  | "swa_step" => some (optional c.step)
  | "is_sw" => some (.bool c.sweeping)
  | "max_sw" => some (.float maxWidth)
  | "step_incr" => some ((c.increment.map Value.int).getD .nothing)
  | "start_field" => some (optional c.start)
  | "field_step" => some (optional c.fieldStep)
  | "is_init" => some (.bool c.ready)
  | "max_field_dev" => some (.float c.deviation)
  | "status_flag" => c.connected.map fun b => .int (if b then 1 else 0)
  | "config" => some c.line.table
  | _ => none

end Controller

def controller : Instrument where
  State := Controller Float
  start := do
    let settings ← Bench.adjusted Factory.bh15
    let line ← Line.parameters settings
    let _ ← Line.specific settings
    let mode := (← get).mode
    let blank : Controller Float := { mode, line, deviation := 0 }
    if mode == .rehearsal || line.interface != "gpib" then return blank
    let opened : Work Unit := tryCatch (Line.openGpib line) fun f => do
      if f == .pipeBroken then
        Bench.message "No connection"
        throw .noMember
      throw f
    opened
    let ready : Act (Controller Float) Unit := do
      for command in ["SR0", "MO0", "IM0"] do
        Controller.write command
      Bench.sleep 1
    return (← ready.runFrom { blank with connected := some true }).2
  commands := Controller.commands
  view := Controller.view

end EprBench.Magnet
