import EprBench.Decimal.Binary
import EprBench.Tensor
import EprBench.Value.Cells

/-! The numbers that a value holds: one number, an array of them, or lists where they stand beside an array. -/
namespace EprBench.Value

inductive Numbers where
  | whole (t : Tensor Int)
  | real (t : Tensor Float)

namespace Numbers

def reals : Numbers → Tensor Float
  | .whole t => t.map Decimal.ofInt
  | .real t => t

def cells : Numbers → List Number
  | .whole t => t.cells.map .int
  | .real t => t.cells.map .float

def ofCells (shape : List Nat) (ns : List Number) : Numbers :=
  let whole? : Number → Option Int
    | .int n => some n
    | .float _ => none
  match ns.mapM whole? with
  | some ms => .whole ⟨shape, ms⟩
  | none =>
    .real ⟨shape, ns.map fun
      | .int n => Decimal.ofInt n
      | .float x => x⟩

def value : Numbers → Value
  | .whole t => .ints t.shape t.cells.toArray
  | .real t => .floats t.shape t.cells.toArray

end Numbers

def isArray : Value → Bool
  | .floats .. | .ints .. => true
  | _ => false

def numbers : Value → Outcome Numbers
  | .floats shape data => .ok (.real ⟨shape, data.toList⟩)
  | .ints shape data => .ok (.whole ⟨shape, data.toList⟩)
  | v => do
    let (shape, found) ← v.cells
    match found.mapM number? with
    | some ns => return .ofCells shape ns
    | none => throw .wrongType

/-- A question about two arrays has an answer when it is asked of at most one pair of cells; of none it is no. -/
def theOnly : List Bool → Outcome Bool
  | [] => .ok false
  | [b] => .ok b
  | _ => .error .wrongValue

end EprBench.Value
