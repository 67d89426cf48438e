import EprBench.Bench.File
import EprBench.Quantity.Sum

/-! The file in which the control panel keeps the settings of a recording. Each line has a title, and the
number is one of its words. -/
namespace EprBench.Panel

def fileName : String := "atomize/control_center/digitizer.param"

def lines (content : String) : List String := (String.ofList (Text.plainLineEnds content.toList)).pieces '\n'

def read : Work (List String) := do
  match ← Bench.fileText? fileName with
  | some content => return lines content
  | none => throw .fileMissing

def field (lines : List String) (line word : Nat) : Outcome Int := do
  Value.intOfText (← pick ((← pick lines line).pieces ' ') word)

def takeWindow {σ : Type} (lines : List String) (put : (Window → Window) → σ → σ) : Act σ Unit := do
  let left ← field lines 6 2
  modify (put fun w => { w with left := left })
  let right ← field lines 7 2
  modify (put fun w => { w with right := 1 + right })

end EprBench.Panel
