import EprBench.Factory
import EprBench.Line.Dialogue

/-! Gaussmeters on a serial line. -/
namespace EprBench.Gaussmeter

open Line Value

def openEnded (greet : Act Link Unit := return) : List Route := [.serial greet false]

/-! ### A Hall gaussmeter -/

def units : List (String × Int) := [("Gauss", 1), ("Tesla", 2), ("Oersted", 3), ("Amp/m", 4)]

def takeUnit (v : Value) : Act Link Unit := do
  match units.lookup v.display with
  | some n => tell s!"UNIT {Decimal.intText n}"
  | none => forbid "Incorrect unit"

def hall : Instrument where
  State := Link
  view := linkView
  start := do
    let settings ← Bench.adjusted Factory.lakeshore455
    let line ← parameters settings
    let _ ← specific settings
    let link ← connect { mode := (← get).mode, line } (openEnded do
      send "*CLS"
      Bench.sleep 0.05
      selfTest toInt)
    andThen link do
      send "UNIT 1"
      Bench.sleep 0.05
  commands := [
    identity "gaussmeter_name",
    plainQuestion "gaussmeter_field" (do return .float (← askReal "RDGFIELD?")) 3500,
    lenient "gaussmeter_units" (do return nameOf units (← askInt "UNIT?")) "Gauss" takeUnit,
    rawCommand "gaussmeter_command",
    rawQuestion "gaussmeter_query"] ++ lineCommands

/-! ### A resonance gaussmeter -/

def resonance : Instrument where
  State := Link
  view := linkView
  start := do
    let settings ← Bench.adjusted Factory.pt2025
    let line ← parameters settings
    let _ ← specific settings
    let link ← connect { mode := (← get).mode, line } openEnded
    andThen link do
      for c in ["D1", "PA", "A1", "H3500"] do send (.text c)
  commands := [
    givenName "gaussmeter_name",
    plainQuestion "gaussmeter_field" (query "ENQ") 3500,
    plainQuestion "gaussmeter_status" (query "S3") 3500,
    rawCommand "gaussmeter_command"] ++ lineCommands

end EprBench.Gaussmeter
