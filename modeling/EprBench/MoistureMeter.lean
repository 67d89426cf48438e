import EprBench.Factory
import EprBench.Line.Dialogue
import EprBench.Line.Registers
import EprBench.Value.Arithmetic

/-! A moisture meter. -/
namespace EprBench.MoistureMeter

open Line Value

def askMoisture : Act Link Value := do
  return .list (← [0, 2, 4, 6].mapM fun r => do rounded 3 (← readReal (.int r)))

def ivg : Instrument where
  State := Link
  view := linkView
  start := do
    let settings ← Bench.adjusted Factory.ivg
    let line ← parameters settings
    shareLine line (← modbusParameters settings)
  commands := [
    givenName "moisture_meter_name",
    plainQuestion "moisture_meter_moisture" askMoisture
      (.list [.float (-49.9), .float 40.12, .float 29.1, .float 25.1]),
    .plain "close_connection" (silent disconnect),
    .unary "device_read" "register" readReal]

end EprBench.MoistureMeter
