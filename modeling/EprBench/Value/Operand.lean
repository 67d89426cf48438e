import EprBench.Value.Arithmetic

/-! Values that are computed with as arrays: numbers, arrays of numbers, and lists where they stand beside an array. -/
namespace EprBench.Value

def toTensor : Value → Outcome (Tensor Float)
  | .floats shape data => .ok ⟨shape, data.toList⟩
  | .ints shape data => .ok ⟨shape, data.toList.map Decimal.ofInt⟩
  | v => do return .scalar (← (← v.operand).real)

def cellTensor (v : Value) : Outcome (Tensor Float) := do
  let (shape, cells) ← v.cells
  return ⟨shape, ← cells.mapM fun c => do (← c.operand).real⟩

def besideArray : Value → Outcome (Tensor Float)
  | .list xs => cellTensor (.list xs)
  | .tuple xs => cellTensor (.tuple xs)
  | v => v.toTensor

def arrayShape : Value → Outcome (List Nat)
  | .floats shape _ => .ok shape
  | .ints shape _ => .ok shape
  | _ => .error .noMember

def ofTensor (t : Tensor Float) : Value := .floats t.shape t.cells.toArray

def cellReal : Value → Outcome Float
  | .nothing => .ok (0.0 / 0.0)
  | v => v.toReal

def toFloats (v : Value) : Outcome (List Nat × Array Float) := do
  let (shape, xs) ← v.cells
  return (shape, (← xs.mapM cellReal).toArray)

end EprBench.Value
