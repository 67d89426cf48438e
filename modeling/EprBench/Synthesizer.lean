import EprBench.Factory
import EprBench.Line.Dialogue

/-! A microwave synthesizer. -/
namespace EprBench.Synthesizer

open Line Value

def rest : Act Link Unit := Bench.sleep 0.05

def tellAndRest (command : String) : Act Link Unit := do
  if ← isLive then
    send (.text command)
    rest

def askAndRest (command : String) (read : Value → Outcome Int) : Act Link Int := do
  let n ← read (← query (.text command))
  rest
  return n

def takeFrequency (v : Value) : Act Link Unit := do
  let n ← v.toInt
  if !(n ≤ 15000 && n ≥ 10) then forbid "Incorrect frequency"
  tellAndRest s!":FREQ {Decimal.intText n} MHz"

def askFrequency : Act Link Value := do
  let n ← askAndRest ":FREQ?" fun v => do truncated ((← v.toReal) / 1000000)
  return .text s!"{Decimal.intText n} MHz"

def takeState (v : Value) : Act Link Unit := do
  let state := v.display
  if !(← isLive) then ensure (state == "On" || state == "Off") "Incorrect state"
  tellAndRest s!"OUTPut {state}"

def takePower (v : Value) : Act Link Unit := do
  let n ← v.toInt
  if !(n ≤ 15 && n ≥ 0) then forbid "Incorrect power level range"
  tellAndRest s!":POW {Decimal.intText n}"

def loose (name : String) (ask : Act Link Value) (rehearsal : Value) (take : Value → Act Link Unit) : Command Link :=
  .variadic name fun
    | [] => Line.answer ask rehearsal
    | [v] => silent (take v)
    | _ => return .nothing

def queryText (v : Value) : Act Link Value := query (.text v.display)

def ecc15k : Instrument where
  State := Link
  view := linkView
  start := do
    let settings ← Bench.adjusted Factory.ecc15k
    let line ← parameters settings
    let _ ← specific settings
    connect { mode := (← get).mode, line } [.serial]
  commands := [
    .plain "synthetizer_name" (do
      if ← isLive then
        let lines ← (← query "*IDN?").pieces '\n'
        return .text (← pick lines 0)
      else return .text (← theLink).line.name),
    loose "synthetizer_frequency" askFrequency 1000 takeFrequency,
    loose "synthetizer_state" (do return nameOf [("On", 1), ("Off", 0)] (← askAndRest "OUTP?" toInt)) "Off" takeState,
    .variadic "synthetizer_power" fun
      | [] => Line.answer (do return .int (← askAndRest ":POW?" fun v => do truncated (← v.toReal))) 15
      | [v] => silent (takePower v)
      | _ => do if ← isLive then throw .noName else throw (.refused "Invalid argument"),
    rawCommand "synthetizer_command",
    .unary "synthetizer_query" "command" fun v => Line.answer (queryText v) .nothing,
    .plain "close_connection" (silent disconnect),
    .unary "device_write" "command" fun v => silent (send v),
    .unary "device_query" "command" queryText]

end EprBench.Synthesizer
