import EprBench.Factory
import EprBench.Line.Dialogue

/-! A precision voltage source with one channel. -/
namespace EprBench.Supply.Precision

open Line Value

structure Source where
  link : Link
  inUse : Int

instance : Linked Source := ⟨Source.link, fun f s => { s with link := f s.link }⟩

def channel (v : Value) : Act Source Int := do
  if v.display != "CH1" then refuse "Invalid channel" "Invalid channel argument"
  if 1 ≤ (← get).inUse then return 1 else forbid "Invalid channel"

/-- No voltage can be set: a session looks for limits that are nowhere, a rehearsal uses a factor before it is set. -/
def takeVoltage (name v : Value) : Act Source Unit := do
  let (_, factor) ← amountIn voltUnits v
  let _ ← channel name
  if ← isLive then throw .noName
  ensure factor.isSome "Invalid scaling argument"
  throw .notAssigned

def askVoltage (name : Value) : Act Source Value := do
  let _ ← channel name
  Line.answer (do return .float (← askReal "VOLT?")) (.float 1)

def ranges : List (String × Int) := [("1 V", 0), ("10 V", 1), ("100 V", 2)]

def takeRange (v : Value) : Act Source Unit := do
  match ranges.lookup v.display with
  | some n => tell s!"RNGE {Decimal.intText n}"
  | none => forbid "Incorrect range"

def states : List (String × Int) := [("On", 1), ("Off", 0)]

/-- The highest range is turned on only with the interlock closed. The channel itself is what is sent. -/
def takeState (name v : Value) : Act Source Unit := do
  let n ← channel name
  if (states.lookup v.display).isNone then forbid "Invalid state argument"
  if ← isLive then
    let range ← askInt "RNGE?"
    Bench.sleep 0.02
    let interlock ← askInt "ILOC?"
    if interlock != 1 && range == 2 then Bench.stop "Safety interlock is open"
    send (.text s!"SOUT {Decimal.intText n}")

def askState (name : Value) : Act Source Value := do
  let _ ← channel name
  Line.answer (do return nameOf states (← askInt "SOUT?")) "Off"

def perChannel (name : String) (take : Value → Value → Act Source Unit) (ask : Value → Act Source Value) : Command Source :=
  .variadic name fun
    | [channel, v] => silent (take channel v)
    | [channel] => ask channel
    | _ => do if ← isLive then Bench.stop "Invalid argument" else return .nothing

def commands : List (Command Source) := [
  identity "power_supply_name",
  perChannel "power_supply_voltage" takeVoltage askVoltage,
  property "power_supply_range" (do return nameOf ranges (← askInt "RNGE?")) "1 V" takeRange "Invalid argument",
  .variadic "power_supply_interlock" fun
    | [] => Line.answer (do return nameOf [("On", 0), ("Off", 1)] (← askInt "ILOC?")) "On"
    | _ => forbid "Invalid argument",
  perChannel "power_supply_channel_state" takeState askState,
  rawCommand "power_supply_command",
  rawQuestion "power_supply_query"] ++ lineCommands

def dc205 : Instrument where
  State := Source
  view := linkView
  start := do
    let settings ← Bench.adjusted Factory.dc205
    let line ← parameters settings
    let inUse ← intOfText (← setting (← specific settings) "channels")
    let link ← connect { mode := (← get).mode, line } [.serial do
        send "*CLS"
        Bench.sleep 0.03
        send "TOKN 0"]
      (Bench.stop "Invalid interface")
    return { link, inUse }
  commands := commands

end EprBench.Supply.Precision
