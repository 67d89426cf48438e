import EprBench.Factory
import EprBench.Line.Dialogue

/-! A high voltage supply. Its voltages are all positive or all negative. -/
namespace EprBench.Supply.HighVoltage

open Line Value

structure Source where
  link : Link
  voltageMin : Float
  voltageMax : Float
  currentMax : Float

instance : Linked Source := ⟨Source.link, fun f s => { s with link := f s.link }⟩

namespace Source

inductive Sign where
  | positive
  | negative

def sign? (s : Source) : Option Sign :=
  if s.voltageMin > 0 && s.voltageMax > 0 then some .positive
  else if s.voltageMin < 0 && s.voltageMax < 0 then some .negative
  else none

def allows (s : Source) : Sign → Float → Bool
  | .positive, x => x ≥ s.voltageMin && x ≤ s.voltageMax
  | .negative, x => x ≤ s.voltageMin && x ≥ s.voltageMax

end Source

def voltageUnits : List (String × Float) := [("V", 1), ("kV", 0.001)]
def currentUnits : List (String × Float) := [("uA", 1000000), ("mA", 1000)]

def needChannel (v : Value) (text : String := "Invalid channel") (reason : String := "Invalid channel argument") :
    Act Source Unit := do
  if v.display != "CH1" then refuse text reason

def rest : Act Source Unit := Bench.sleep 0.02

def askAndRest {α : Type} (ask : Act Source α) : Act Source α := do
  let x ← ask
  rest
  return x

def limitsFault : String := "Incorrect max/min voltage in the module"

/-- A rehearsal looks at the limits with a factor that is not set yet. -/
def rehearseVoltage (factor : Option Float) : Act Source Unit := do
  ensure factor.isSome "Invalid scaling argument"
  match (← get).sign? with
  | some _ => throw .notAssigned
  | none => throw (.refused limitsFault)

/-! ### Voltage -/

def controlled : String := "Voltage setting is controlled by the rear-panel HVSET input"

/-- A voltage beyond the limit that is set on the front is not taken. -/
def putVoltage (x : Float) : Act Source Unit := do
  let s ← get
  match s.sign? with
  | none => Bench.stop limitsFault
  | some sign =>
    if !s.allows sign x then Bench.stop "Incorrect voltage range"
    let limit ← askAndRest (askReal "VLIM?")
    let (fits, word) := match sign with
      | .positive => (decide (x ≤ limit), "higher")
      | .negative => (decide (x ≥ limit), "lower")
    if fits then send (.text (withReal "VSET " x))
    else Bench.message s!"Voltage setting is {word} than voltage limit setting"

def takeVoltage (channel v : Value) : Act Source Unit := do
  let (x, factor) ← amountIn voltageUnits v
  needChannel channel "Incorrect channel"
  if ← isLive then
    match factor with
    | none => Bench.stop "Incorrect voltage scaling"
    | some factor =>
      match ← askAndRest (askInt "SMOD?") with
      | 0 => putVoltage (x / factor)
      | 1 => Bench.stop controlled
      | _ => Bench.stop "Incorrect rear_mode setting"
  else rehearseVoltage factor

def askVoltage (channel : Value) : Act Source Value := do
  needChannel channel
  Line.answer (do
    let mode ← askAndRest (askInt "SMOD?")
    if mode != 0 && mode != 1 then Bench.stop "Incorrect SMOD setting"
    if mode == 1 then Bench.message controlled
    return .float (← askReal "VSET?")) (.float 100)

/-! ### Limits -/

def takeVoltageLimit (channel v : Value) : Act Source Unit := do
  let (x, factor) ← amountIn voltageUnits v
  needChannel channel
  if ← isLive then
    match factor with
    | none => Bench.stop "Incorrect overvoltage scaling"
    | some factor =>
      let s ← get
      let x := x / factor
      match s.sign? with
      | none => Bench.stop limitsFault
      | some sign =>
        if !s.allows sign x then Bench.stop "Incorrect voltage limit range"
        send (.text (withReal "VLIM " x))
  else rehearseVoltage factor

def askVoltageLimit (channel : Value) : Act Source Value := do
  needChannel channel
  Line.answer (do return .float (← askReal "VLIM?")) (.float 110)

def takeCurrentLimit (channel v : Value) : Act Source Unit := do
  let (x, factor) ← amountIn currentUnits v
  needChannel channel
  match factor with
  | none => refuse "Incorrect overcurrent scaling" "Invalid overcurrent scaling"
  | some factor =>
    if !(← isLive) then throw .notAssigned
    let x := x / factor
    if !(x ≤ (← get).currentMax * 1.05) then Bench.stop "Incorrect overcurrent range"
    send (.text (withReal "ILIM " x))

def askCurrentLimit (channel : Value) : Act Source Value := do
  needChannel channel
  Line.answer (do return .float ((← askReal "ILIM?") * 1000000)) (.float 0.01)

/-! ### States -/

def takeState (channel v : Value) : Act Source Unit := do
  needChannel channel
  match [("Off", "HVOF"), ("On", "HVON")].lookup v.display with
  | some t => tell t
  | none => refuse "Invalid state argument. Function cannot be queried" "Invalid state argument"

/-- The state cannot be asked for. -/
def askState (channel : Value) : Act Source Value := do
  if ← isLive then Bench.stop "Invalid argument"
  needChannel channel
  throw (.refused "This function cannot be queried")

def measure (channel : Value) : Act Source Value := do
  needChannel channel "Invalid channel" "Invalid channel"
  Line.answer (do
    let voltage ← askAndRest (query "VOUT?")
    let current ← query "IOUT?"
    let voltage ← voltage.toReal
    return .list [.float voltage, .float (← current.toReal)]) (.list [100, .float 0.05])

def rearModes : List (String × Int) := [("Front", 0), ("Rear", 1)]

def takeRearMode (v : Value) : Act Source Unit := do
  match rearModes.lookup v.display with
  | some n => tell s!"SMOD {Decimal.intText n}"
  | none => forbid "Incorrect rear mode"

def perChannel (name : String) (take : Value → Value → Act Source Unit) (ask : Value → Act Source Value) : Command Source :=
  .variadic name fun
    | [channel, v] => silent (take channel v)
    | [channel] => ask channel
    | _ => do if ← isLive then Bench.stop "Invalid argument" else return .nothing

def commands : List (Command Source) := [
  identity "power_supply_name",
  perChannel "power_supply_voltage" takeVoltage askVoltage,
  perChannel "power_supply_overvoltage" takeVoltageLimit askVoltageLimit,
  perChannel "power_supply_overcurrent" takeCurrentLimit askCurrentLimit,
  perChannel "power_supply_channel_state" takeState askState,
  .unary "power_supply_measure" "channel" measure,
  property "power_supply_rear_mode" (do return nameOf rearModes (← askInt "SMOD?")) "Front" takeRearMode
    "Invalid argument",
  rawCommand "power_supply_command",
  rawQuestion "power_supply_query"] ++ lineCommands

def ps300 : Instrument where
  State := Source
  view := linkView
  start := do
    let settings ← Bench.adjusted Factory.ps300
    let line ← parameters settings
    let es ← specific settings
    let voltageMin ← realSetting es "voltage_min"
    let voltageMax ← realSetting es "voltage_max"
    let currentMax ← realSetting es "current_max"
    let serial ← setting es "rs232"
    let mode := (← get).mode
    if mode == .live && line.interface == "rs232" && serial == "no" then
      Bench.stop "RS-232 is not available on this device"
    let greet : Act Link Unit := send "*CLS"
    let routes := if serial == "yes" then [.serial greet, .gpib greet] else [.gpib greet]
    let link ← connect { mode, line } routes
    return { link, voltageMin, voltageMax, currentMax }
  commands := commands

end EprBench.Supply.HighVoltage
