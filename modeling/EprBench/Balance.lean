import EprBench.Factory
import EprBench.Line.Dialogue

/-! A balance. -/
namespace EprBench.Balance

open Line Value

/-- The weight is the second word of the answer or, if that is empty, the third. What is no number counts as -0.5. -/
def weightOf (answer : Value) : Outcome Float := do
  let words ← answer.pieces ' '
  let word ← if (← pick words 1) == "" then pick words 2 else pick words 1
  match realOfText word with
  | .ok x => return x
  | .error _ => return -0.5

def cpwPlus : Instrument where
  State := Link
  view := linkView
  start := do
    let settings ← Bench.adjusted Factory.cpwPlus150
    let line ← parameters settings
    let _ ← specific settings
    connect { mode := (← get).mode, line } [.serial (return) false]
  commands := plainQuestion "balance_weight" (do return .float (← weightOf (← query "G"))) 1 :: lineCommands

end EprBench.Balance
