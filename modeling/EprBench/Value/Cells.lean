import EprBench.Value

/-! Nested lists as rectangular arrays: the shape, and the cells row by row. -/
namespace EprBench.Value

def stack (rows : List (List Nat × List Value)) : Outcome (List Nat × List Value) :=
  match rows with
  | [] => .ok ([0], [])
  | (shape, _) :: _ =>
    if rows.all (·.1 == shape) then .ok (rows.length :: shape, rows.flatMap (·.2))
    else .error .wrongValue

mutual

def cells : Value → Outcome (List Nat × List Value)
  | .list xs => cellsOfAll xs >>= stack
  | .tuple xs => cellsOfAll xs >>= stack
  | .floats shape data => .ok (shape, data.toList.map .float)
  | .ints shape data => .ok (shape, data.toList.map .int)
  | v => .ok ([], [v])

def cellsOfAll : List Value → Outcome (List (List Nat × List Value))
  | [] => .ok []
  | x :: xs => do
    let row ← cells x
    let rows ← cellsOfAll xs
    return row :: rows

end

end EprBench.Value
