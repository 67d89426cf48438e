import EprBench.Factory
import EprBench.Line.Dialogue

/-! A temperature controller that answers every command. -/
namespace EprBench.Temperature.Oxford

open Line Value

structure Controller where
  link : Link
  channels : Int

instance : Linked Controller := ⟨Controller.link, fun f c => { c with link := f c.link }⟩

def states : List (String × Int) := [("Manual-Manual", 0), ("Auto-Manual", 1), ("Manual-Auto", 2), ("Auto-Auto", 3)]

def locks : List (String × String) :=
  [("Local-Locked", "C0"), ("Remote-Locked", "C1"), ("Local-Unlocked", "C2"), ("Remote-Unlocked", "C3")]

def order (command : String) : Act Controller Unit := do
  let _ ← query (.text command)

def told (command : String) : Act Controller String := do
  return (← query (.text command)).display.part (some 1) none

def askNumber (command : String) : Act Controller Value := do return .float (← realOfText (← told command))

def statePart (start stop : Int) : Act Controller String := do
  return (← query "X").display.part (some start) (some stop)

def firstLetter (s : String) : Outcome Char := pick s.toList 0

/-- A temperature with a sign is in degrees and not told. -/
def temperature (v : Value) : Act Controller Value := do
  let channel := v.display
  if (← get).channels < (← intOfText channel) then Bench.stop "Invalid channel"
  if !(["1", "2", "3"].contains channel) then Bench.stop "Invalid channel"
  let answer ← told ("R" ++ channel)
  let first ← firstLetter answer
  let x ← realOfText answer
  if first == '+' || first == '-' then return .nothing else return .float x

/-- Sets the set point; no connection is looked for, only a line that was opened. -/
def takeSetPoint (v : Value) : Act Controller Unit := do
  let x ← v.toReal
  if !(x ≤ 320 && x ≥ 0.3) then Bench.stop "Incorrect set point temperature"
  if (← theLink).line.interface != "rs232" then throw .noMember
  let _ ← ask (.text ("T" ++ Decimal.fixedText 3 x))

def takeState (v : Value) : Act Controller Unit := do
  match states.lookup v.display with
  | none => Bench.stop "Invalid temperature controller state"
  | some n =>
    let phase ← if n ≥ 2 then statePart 2 4 else pure ""
    if ["A5", "A6", "A7", "A8"].contains phase then
      Bench.message "Cannot set state to GAS AUTO while in AutoGFS phase."
    else order s!"A{Decimal.intText n}"

def adjust (letter : String) (manual : List String) (max : Float) (range governed : String) (v : Value) :
    Act Controller Unit := do
  let x ← v.toReal
  let state ← statePart 2 4
  if (← firstLetter state) != 'A' then Bench.stop "Device returns invalid state data."
  if manual.contains state then
    if !(x ≥ 0 && x ≤ max) then Bench.stop range
    order (letter ++ Decimal.fixedText 1 x)
  else Bench.message governed

def heaterGoverned : String := "Cannot change heater power while heater power is controlled by the device"

/-- Choosing a sensor looks for a channel that is nowhere given. -/
def takeSensor (v : Value) : Act Controller Unit := do
  let n ← v.toInt
  if n ≥ 1 && n ≤ 3 then throw .noName
  Bench.stop "Invalid sensor"

def askSensor : Act Controller Value := do
  let part ← statePart 9 11
  if (← firstLetter part) != 'H' then Bench.stop "Device returns invalid heater sensor data."
  return .int (← intOfText (String.singleton (← pick part.toList 1)))

def takeLock (v : Value) : Act Controller Unit := do
  match locks.lookup v.display with
  | none => Bench.stop "Invalid argument"
  | some code => order code

def loose (name : String) (ask : Act Controller Value) (take : Value → Act Controller Unit) : Command Controller :=
  .variadic name fun
    | [] => ask
    | [v] => silent (take v)
    | _ => return .nothing

def strict (name : String) (ask : Act Controller Value) (take : Value → Act Controller Unit) : Command Controller :=
  property name ask .nothing take ""

def commands : List (Command Controller) := [
  .plain "tc_name" (query "V"),
  .unary "tc_temperature" "channel" temperature,
  strict "tc_setpoint" (askNumber "R0") takeSetPoint,
  strict "tc_state" (do return nameOf states (← intOfText (← statePart 3 4))) takeState,
  loose "tc_heater_power" (askNumber "R5")
    (adjust "O" ["A0", "A2"] 99.9 "Invalid heater power percent" heaterGoverned),
  .unary "tc_heater_power_limit" "power" fun v =>
    silent (adjust "M" ["A0", "A2"] 40 "Invalid heater power" heaterGoverned v),
  loose "tc_sensor" askSensor takeSensor,
  loose "tc_gas_flow" (askNumber "R7")
    (adjust "G" ["A0", "A1"] 99.9 "Invalid gas flow percent"
      "Cannot gas flow percentage while flow is controlled by the device"),
  strict "tc_lock_keyboard" (do return nameOf locks (← statePart 4 6)) takeLock,
  .unary "tc_command" "command" fun v => do
    let _ ← query v
    return .nothing,
  .unary "tc_query" "command" query] ++ lineCommands

def itc503 : Instrument where
  State := Controller
  view := linkView
  start := do
    let settings ← Bench.adjusted Factory.itc503
    let line ← parameters settings
    let channels ← intOfText (← setting (← specific settings) "channels")
    -- A rehearsal has nowhere to keep its set point.
    if (← get).mode == .rehearsal then throw .noMember
    if line.interface == "gpib" then Bench.stop "Invalid interface"
    let link ← connect { mode := .live, line } [.serial do
      send "Q0"
      let _ ← query "C3"]
    return { link, channels }
  commands := commands

end EprBench.Temperature.Oxford
