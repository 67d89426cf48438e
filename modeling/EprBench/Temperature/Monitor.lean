import EprBench.Factory
import EprBench.Line.Dialogue

/-! A thermometer with one sensor. -/
namespace EprBench.Temperature.Monitor

open Line Value

def askTemperature : Act Link Value := do
  let words ← (← query "T?").pieces ' '
  return .float (← realOfText (← pick words 1))

def commands : List (Command Link) := [
  identity "tc_name",
  .unary "tc_temperature" "channel" fun v => do
    if !(← v.equals "1") then refuse "Invalid argument" "Incorrect channel"
    Line.answer askTemperature (.float 10),
  rawCommand "tc_command",
  rawQuestion "tc_query"] ++ lineCommands

def greet : Act Link Unit := do
  let _ ← query "*IDN?"

def scm10 : Instrument where
  State := Link
  view := linkView
  start := do
    let line ← parameters (← Bench.adjusted Factory.scm10)
    connect { mode := (← get).mode, line } [.serial greet, .ethernet greet true] (Bench.stop wrongInterface)
  commands := commands

end EprBench.Temperature.Monitor
