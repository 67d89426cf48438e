import EprBench.Factory
import EprBench.Line.Dialogue

/-! Temperature controllers with control loops and lettered sensors. -/
namespace EprBench.Temperature.Lakeshore

open Line Value

inductive SensorStyle where
  | told
  | lettered
  | numbered
deriving BEq

structure Model where
  settings : Settings
  heaters : List (String × Int)
  loops : List Int := [1, 2]
  channels : List String := ["A", "B"]
  sensors : List (Int × String) := [(1, "A"), (2, "B")]
  sensorStyle : SensorStyle
  temperatureMin : Float
  localWork : Int := 0
  analogFrom : Int := 100
  rehearsedHeater : String := "5 W"
  rehearsedLock : String := "Local-Locked"

structure Controller where
  link : Link
  loop : Int

instance : Linked Controller := ⟨Controller.link, fun f c => { c with link := f c.link }⟩

namespace Model

variable (m : Model)

def temperatureMax : Float := 320

def loopText : Act Controller String := return Decimal.intText (← get).loop

def hasLoop : Act Controller Bool := return m.loops.contains (← get).loop

def needLoop : Act Controller Unit := do
  if !(← m.hasLoop) then refuse "Invalid loop" "Invalid loop argument"

def textOf : Value → Outcome String
  | .bytes bs => decoded bs
  | v => .ok v.display

def letter (v : Value) (i : Nat) : Outcome String := do
  let s ← textOf v
  return String.singleton (← pick s.toList i)

/-! ### Temperatures -/

def temperature (v : Value) : Act Controller Value := do
  match ← v.choice (m.channels.map fun c => (c, c)) with
  | none => refuse "Invalid argument" "Incorrect channel"
  | some c => Line.answer (return .float (← askReal s!"KRDG? {c}")) (.float 200)

/-- Sends a set point; no connection is looked for, only a line that was opened. -/
def putSetPoint (x : Float) : Act Controller Unit := do
  let line := (← theLink).line
  if line.interface != "gpib" && line.interface != "rs232" then throw .noMember
  put (.text s!"SETP {← loopText},{Decimal.floatText x}")

def isAllowed (x : Float) : Bool := x ≤ temperatureMax && x ≥ m.temperatureMin

def setPoint (vs : List Value) : Act Controller Value := do
  if ← isLive then
    if !(← m.hasLoop) then Bench.stop "Invalid loop"
    match vs with
    | [v] =>
      let x ← v.toReal
      if !m.isAllowed x then Bench.stop "Incorrect set point temperature"
      silent (putSetPoint x)
    | [] => return .float (← askReal s!"SETP? {← loopText}")
    | _ => Bench.stop "Invalid argument"
  else
    match vs with
    | [v] =>
      ensure (m.isAllowed (← v.toReal)) "Incorrect set point temperature is reached"
      silent m.needLoop
    | [] => return .float 298
    | _ => return .nothing

/-! ### Heater -/

def askHeater : Act Controller Value := do
  return nameOf m.heaters (← askInt s!"RANGE? {← loopText}")

def takeHeater (v : Value) : Act Controller Unit := do
  match m.heaters.lookup v.display with
  | none => forbid "Invalid heater range"
  | some n =>
    m.needLoop
    tell s!"RANGE {← loopText},{Decimal.intText n}"

def power : Act Controller Value := do
  if ← isLive then
    let range ← m.askHeater
    m.needLoop
    let question := if (← get).loop < m.analogFrom then "HTR? " else "AOUT? "
    return .list [.float (← askReal (question ++ (← loopText))), range]
  else
    m.needLoop
    return .list [.float 1, .text m.rehearsedHeater]

/-! ### Sensor -/

def chooseSensor (v : Value) : Act Controller Unit := do
  let n ← v.toInt
  m.needLoop
  let known := m.sensors.lookup n
  if !(← isLive) then ensure known.isSome "Invalid sensor"
  else
    match m.sensorStyle, known with
    | .told, _ => return
    | _, none => Bench.stop "Invalid sensor"
    | .lettered, some letter => send (.text s!"CSET {← loopText},{letter},0,2")
    | .numbered, some _ => send (.text s!"OUTMODE {← loopText},1,{Decimal.intText n},0")

def askSensor : Act Controller Value := do
  if m.sensorStyle == .numbered then
    let told ← query (.text s!"OUTMODE?{← loopText}")
    match m.sensors.lookup (← intOfText (← letter told 2)) with
    | some name => return .text name
    | none => Bench.stop "Invalid response of the device"
  else return .text (← letter (← query (.text s!"CSET?{← loopText}")) 0)

def sensor (vs : List Value) : Act Controller Value :=
  match vs with
  | [v] => silent (m.chooseSensor v)
  | [] => Line.answer m.askSensor "A"
  | _ => return .nothing

/-! ### Keyboard -/

def locks : List (String × (Int × Int)) := [
  ("Local-Locked", (1, 0)), ("Remote-Locked", (1, 1)), ("Local-Unlocked", (0, 0)), ("Remote-Unlocked", (0, 1))]

def takeLock (v : Value) : Act Controller Unit := do
  match locks.lookup v.display with
  | none => refuse "Invalid argument" "Invalid lock argument"
  | some (locked, remote) =>
    tell s!"LOCK {Decimal.intText locked},123"
    tell s!"MODE {Decimal.intText (m.localWork + remote)}"

def askLock : Act Controller Value := do
  let locked ← intOfText (← letter (← query "LOCK?") 0)
  let work ← askInt "MODE?"
  return nameOf locks (locked, work - m.localWork)

def commands : List (Command Controller) := [
  .plain "tc_name" (do
    if ← isLive then return .text (← textOf (← query "*IDN?")) else return .text (← theLink).line.name),
  .unary "tc_temperature" "channel" m.temperature,
  .variadic "tc_setpoint" m.setPoint,
  property "tc_heater_range" m.askHeater (.text m.rehearsedHeater) m.takeHeater "Invalid heater range",
  .plain "tc_heater_power" m.power,
  .variadic "tc_sensor" m.sensor,
  property "tc_lock_keyboard" m.askLock (.text m.rehearsedLock) m.takeLock "Invalid argument",
  rawCommand "tc_command",
  rawQuestion "tc_query"] ++ lineCommands

def greet : Act Link Unit := do
  send "*CLS"
  selfTest toInt

/-- First words on a serial line. The answer is not read as a number, so it never is the good one. -/
def greetSerial : Act Link Unit := do
  send "*CLS"
  selfTest fun _ => .ok 1

def instrument : Instrument where
  State := Controller
  view := linkView
  start := do
    let settings ← Bench.adjusted m.settings
    let line ← parameters settings
    let loop ← intOfText (← setting (← specific settings) "loop")
    let link ← connect { mode := (← get).mode, line, decodes := false } [.gpib greet, .serial greetSerial]
    return { link, loop }
  commands := m.commands

end Model

def wide : List (String × Int) := [("50 W", 3), ("5 W", 2), ("0.5 W", 1), ("Off", 0)]

def ls325 : Model where
  settings := Factory.lakeshore325
  heaters := [("25 W", 2), ("2.5 W", 1), ("Off", 0)]
  sensorStyle := .told
  temperatureMin := 1.4
  rehearsedHeater := "2.5 W"

def ls332 : Model where
  settings := Factory.lakeshore332
  heaters := wide
  sensorStyle := .lettered
  temperatureMin := 1.4

def ls335 : Model where
  settings := Factory.lakeshore335
  heaters := wide
  sensors := [(0, "None"), (1, "A"), (2, "B")]
  sensorStyle := .numbered
  temperatureMin := 0.3
  rehearsedLock := "Remote-Locked"

def ls336 : Model where
  settings := Factory.lakeshore336
  heaters := wide
  loops := [1, 2, 3, 4]
  channels := ["A", "B", "C", "D"]
  sensors := [(0, "None"), (1, "A"), (2, "B"), (3, "C"), (4, "D")]
  sensorStyle := .numbered
  temperatureMin := 0.3
  analogFrom := 3

def ls340 : Model where
  settings := Factory.lakeshore340
  heaters := [("10 W", 5), ("1 W", 4), ("100 mW", 3), ("10 mW", 2), ("1 mW", 1), ("Off", 0)]
  loops := [1, 2, 3, 4]
  channels := ["A", "B", "C", "D"]
  sensorStyle := .told
  temperatureMin := 0.3
  localWork := 1
  analogFrom := 3

/-- A controller whose loop is asked for before its settings are read, so it never gets ready. -/
def ls331 : Instrument where
  State := Unit
  start := throw .noMember
  commands := []

end EprBench.Temperature.Lakeshore
