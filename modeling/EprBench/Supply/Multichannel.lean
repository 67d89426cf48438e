import EprBench.Factory
import EprBench.Line.Dialogue

/-! A power supply with three channels. -/
namespace EprBench.Supply.Multichannel

open Line Value

structure Source where
  link : Link
  inUse : Int
  voltageMax : List (String × Int)
  currentMax : List (String × Int)

instance : Linked Source := ⟨Source.link, fun f s => { s with link := f s.link }⟩

def channels : List (String × Int) := [("CH1", 1), ("CH2", 2), ("CH3", 3)]

def channel (v : Value) (unknown : String := "Invalid channel argument") : Act Source Int := do
  match channels.lookup v.display with
  | none => refuse "Invalid channel" unknown
  | some n => if n ≤ (← get).inUse then return n else forbid "Invalid channel"

structure Amount where
  name : String
  word : String
  what : String
  units : List (String × Float)
  max : Source → List (String × Int)
  /-- How far a session may go beyond the highest value. -/
  margin : Float := 0
  scalingReason : String := "Invalid scaling argument"
  rehearsal : Float

namespace Amount

variable (a : Amount)

def take (name v : Value) : Act Source Unit := do
  let (x, factor) ← amountIn a.units v
  let n ← channel name
  match factor with
  | none => refuse s!"Incorrect {a.what} scaling" a.scalingReason
  | some factor =>
    let x := x / factor
    let max ← realOfInt (((a.max (← get)).lookup name.display).getD 0)
    let max := if ← isLive then max + a.margin else max
    if !(x ≥ 0 && x ≤ max) then forbid s!"Incorrect {a.what} range"
    tell (withReal s!":SOURce{Decimal.intText n}:{a.word} " x)

def ask (name : Value) : Act Source Value := do
  let n ← channel name
  Line.answer (do return .float (← askReal s!":SOURce{Decimal.intText n}:{a.word}?")) (.float a.rehearsal)

def command : Command Source :=
  .variadic a.name fun
    | [name, v] => silent (a.take name v)
    | [name] => a.ask name
    | _ => do if ← isLive then Bench.stop "Invalid argument" else return .nothing

end Amount

def ampUnits : List (String × Float) := [("A", 1), ("mA", 1000)]

def amounts : List Amount := [
  { name := "power_supply_voltage", word := "VOLTage", what := "voltage", units := voltUnits, max := Source.voltageMax,
    rehearsal := 1 },
  { name := "power_supply_current", word := "CURRent", what := "current", units := ampUnits, max := Source.currentMax,
    rehearsal := 0.2 },
  { name := "power_supply_overvoltage", word := "VOLTage:PROTection", what := "overvoltage protection",
    units := voltUnits, max := Source.voltageMax, margin := 3, rehearsal := 1 },
  { name := "power_supply_overcurrent", word := "CURRent:PROTection", what := "overcurrent protection",
    units := ampUnits, max := Source.currentMax, margin := 0.3,
    scalingReason := "Invalid overcurrent protection scaling", rehearsal := 0.2 }]

/-! ### States -/

def states : List (String × String) := [("On", "ON"), ("Off", "OFF")]

def takeState (name v : Value) : Act Source Unit := do
  let n ← channel name
  match states.lookup v.display with
  | some t => tell s!":OUTPut CH{Decimal.intText n},{t}"
  | none => forbid "Invalid state argument"

def askState (name : Value) : Act Source Value := do
  let n ← channel name
  Line.answer (do return nameOf states (← query (.text s!":OUTPut? CH{Decimal.intText n}")).display) "Off"

def measure (name : Value) : Act Source Value := do
  let n ← channel name "Invalid channel"
  Line.answer (do
    let words ← (← query (.text s!":MEASure:ALL? CH{Decimal.intText n}")).pieces ','
    return .list (← [0, 1, 2].mapM fun i => do return .float (← realOfText (← pick words i))))
    (.list [.float 2, .float 0.05, .float 0.1])

def presets : List (String × String) := [
  ("Default", "DEFAULT"), ("User1", "USER1"), ("User2", "USER2"), ("User3", "USER3"), ("User4", "USER4")]

def usePreset (v : Value) : Act Source Unit := do
  match presets.lookup v.display with
  | none => forbid "Invalid preset argument"
  | some t =>
    tell s!":PRESet:KEY {t}"
    tell ":PRESet:APPLy"

def commands : List (Command Source) := amounts.map Amount.command ++ [
  identity "power_supply_name",
  .variadic "power_supply_channel_state" fun
    | [name, v] => silent (takeState name v)
    | [name] => askState name
    | _ => do if ← isLive then Bench.stop "Invalid argument" else return .nothing,
  .unary "power_supply_measure" "channel" measure,
  .unary "power_supply_set_preset" "preset" fun v => silent (usePreset v),
  rawCommand "power_supply_command",
  rawQuestion "power_supply_query"] ++ lineCommands

def limits (es : Entries) (what : String) : Outcome (List (String × Int)) :=
  channels.mapM fun c => do
    return (c.1, ← intOfText (← setting es s!"ch{Decimal.intText c.2}_{what}_max"))

def dp800 : Instrument where
  State := Source
  view := linkView
  start := do
    let settings ← Bench.adjusted Factory.rigolDp800
    let line ← parameters settings
    let es ← specific settings
    let inUse ← intOfText (← setting es "channels")
    let voltageMax ← limits es "voltage"
    let currentMax ← limits es "current"
    let link ← connect { mode := (← get).mode, line, rest := some 0.01 } [
      .serial (do
        send "*CLS"
        Bench.sleep 0.05),
      .ethernet (send "*CLS")]
    return { link, inUse, voltageMax, currentMax }
  commands := commands

end EprBench.Supply.Multichannel
