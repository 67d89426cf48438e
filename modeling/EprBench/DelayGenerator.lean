import EprBench.Factory
import EprBench.Line.Dialogue

/-! A delay generator. It takes answers in but does not tell them. -/
namespace EprBench.DelayGenerator

open Line Value

def delayChannels : List (String × Int) := [("T0", 1), ("A", 2), ("B", 3), ("C", 5), ("D", 6)]
def outputs : List (String × Int) := [("T0", 1), ("A", 2), ("B", 3), ("AB", 4), ("C", 5), ("D", 6), ("CD", 7)]
def connectors : List (String × Int) := ("Trigger", 0) :: outputs
def delayUnits : List (String × Float) := timeUnits ++ [("ps", 1000000000000)]

def queryNothing (command : Value) : Act Link Value := do
  let _ ← query command
  return .nothing

def askCode (command : String) : Act Link Int := do (← queryNothing (.text command)).toInt

def codeText (n : Int) : String := Decimal.intText n

/-! ### Delays -/

def takeDelay (first second v : Value) : Act Link Unit := do
  let (x, factor) ← amountIn delayUnits v
  let one := delayChannels.lookup first.display
  let two := delayChannels.lookup second.display
  match one, two, factor with
  | some a, some b, some factor =>
    let t := x / factor
    if !(t ≥ 0 && t ≤ 999.99) then forbid "Incorrect delay range"
    tell (withReal s!"DT {codeText a},{codeText b}," t)
  | none, _, _ => refuse "Incorrect channel" "Invalid channel_1 argument"
  | _, none, _ => refuse "Incorrect channel" "Invalid channel_2 argument"
  | _, _, none => refuse "Incorrect delay scaling" "Invalid scaling argument"

def askDelay (channel : Value) : Act Link Value := do
  match delayChannels.lookup channel.display with
  | none => forbid "Incorrect channel"
  | some a => Line.answer (do
      let words := (← queryNothing (.text s!"DT {codeText a}")).display
      let parts ← (Value.text words).pieces ','
      let other := nameOf delayChannels (← intOfText (← pick parts 0))
      let x ← realOfText (← pick parts 1)
      return .text s!"{other.display} + {Decimal.floatText (x * 1000000)}") "B + 1.0"

/-! ### Properties of connectors -/

structure Feature where
  name : String
  word : String
  what : String
  channels : List (String × Int)
  table : List (String × Int)
  rehearsal : String
  needsMode : Bool := false

namespace Feature

variable (f : Feature)

def take (channel v : Value) : Act Link Unit := do
  match f.channels.lookup channel.display, f.table.lookup v.display with
  | none, _ => refuse "Invalid channel" "Invalid channel argument"
  | _, none => refuse s!"Incorrect {f.what}" s!"Invalid {f.what} argument"
  | some a, some b =>
    if ← isLive then
      let mode ← if f.needsMode then askCode s!"OM {codeText a}" else pure 0
      if mode != 3 then
        if f.needsMode then Bench.sleep 0.03
        send (.text s!"{f.word} {codeText a},{codeText b}")
      else Bench.message "You are in Variable mode"

def ask (channel : Value) : Act Link Value := do
  match f.channels.lookup channel.display with
  | none => refuse "Invalid channel" "Invalid channel argument"
  | some a => Line.answer (do return nameOf f.table (← askCode s!"{f.word} {codeText a}")) (.text f.rehearsal)

def command : Command Link :=
  .variadic f.name fun
    | [channel, v] => silent (f.take channel v)
    | [channel] => f.ask channel
    | _ => do if ← isLive then Bench.stop "Invalid argument" else return .nothing

end Feature

def impedance : Feature :=
  ⟨"delay_gen_impedance", "TZ", "impedance", connectors, [("50", 0), ("High Z", 1)], "High Z", false⟩
def outputMode : Feature :=
  ⟨"delay_gen_output_mode", "OM", "mode", outputs, [("TTL", 0), ("NIM", 1), ("ECL", 2), ("Variable", 3)], "TTL", false⟩
def polarity : Feature :=
  ⟨"delay_gen_output_polarity", "OP", "polarity", outputs, [("Inverted", 0), ("Normal", 1)], "Normal", true⟩

def dg535 : Instrument where
  State := Link
  view := linkView
  start := do
    let settings ← Bench.adjusted Factory.dg535
    let line ← parameters settings
    let _ ← specific settings
    connect { mode := (← get).mode, line } [.gpib] (Bench.stop wrongInterface)
  commands := [
    givenName "delay_gen_name",
    .variadic "delay_gen_delay" fun
      | [first, second, v] => silent (takeDelay first second v)
      | [channel] => askDelay channel
      | _ => forbid "Invalid argument",
    impedance.command, outputMode.command, polarity.command,
    -- The values are looked for under a name that is not there.
    .variadic "delay_gen_amplitude_offset" fun _ => throw .noName,
    rawCommand "delay_gen_command",
    .unary "delay_gen_query" "command" fun v => Line.answer (queryNothing v) .nothing,
    .plain "close_connection" (silent disconnect),
    .unary "device_write" "command" fun v => silent (send v),
    .unary "device_query" "command" queryNothing]

end EprBench.DelayGenerator
