import EprBench.Fault

/-! Arrays of any rank: a shape, and the cells row by row. Arrays of different shapes are combined by repeating the
axes that are one long. -/
namespace EprBench

structure Tensor (α : Type) where
  shape : List Nat
  cells : List α

namespace Tensor

variable {α β γ : Type}

def volume (shape : List Nat) : Nat := shape.foldr (· * ·) 1

def scalar (x : α) : Tensor α := ⟨[], [x]⟩

def row (xs : List α) : Tensor α := ⟨[xs.length], xs⟩

def map (f : α → β) (t : Tensor α) : Tensor β := ⟨t.shape, t.cells.map f⟩

def pieces : Nat → Nat → List α → List (List α)
  | 0, _, _ => []
  | count + 1, length, xs => xs.take length :: pieces count length (xs.drop length)

def columns : Nat → List (List α) → List (List α)
  | 0, _ => []
  | width + 1, rows => rows.filterMap List.head? :: columns width (rows.map List.tail)

def transposedCells : List Nat → List α → List α
  | [], cells => cells
  | n :: rest, cells =>
    (columns (volume rest) ((pieces n (volume rest) cells).map (transposedCells rest))).flatten

def transposed (t : Tensor α) : Tensor α := ⟨t.shape.reverse, transposedCells t.shape t.cells⟩

def joined : List Nat → List Nat → Option (List Nat)
  | [], [] => some []
  | n :: ns, m :: ms => do
    let rest ← joined ns ms
    if n = m ∨ m = 1 then some (n :: rest) else if n = 1 then some (m :: rest) else none
  | _, _ => none

def padded (rank : Nat) (shape : List Nat) : List Nat := List.replicate (rank - shape.length) 1 ++ shape

def spread : List Nat → List Nat → List α → List α
  | n :: ns, m :: ms, cells =>
    let filled := ((pieces n (volume ns) cells).map (spread ns ms)).flatten
    if n = m then filled else (List.replicate m filled).flatten
  | _, _, cells => cells

def zipWith (f : α → β → γ) (a : Tensor α) (b : Tensor β) : Outcome (Tensor γ) :=
  let rank := max a.shape.length b.shape.length
  let sa := padded rank a.shape
  let sb := padded rank b.shape
  match joined sa sb with
  | some shape => .ok ⟨shape, List.zipWith f (spread sa shape a.cells) (spread sb shape b.cells)⟩
  | none => .error .wrongValue

def fitted (shape : List Nat) (t : Tensor α) : Outcome (Tensor α) :=
  let own := padded shape.length t.shape
  if joined own shape = some shape then .ok ⟨shape, spread own shape t.cells⟩ else .error .wrongValue

def alongAxis (f : List α → List α) : Nat → List Nat → List α → List α
  | 0, n :: rest, cells => (columns n ((columns (volume rest) (pieces n (volume rest) cells)).map f)).flatten
  | axis + 1, n :: rest, cells => ((pieces n (volume rest) cells).map (alongAxis f axis rest)).flatten
  | _, [], cells => cells

def pickAll (places : List Nat) (xs : List α) : Outcome (List α) :=
  places.mapM fun i => match xs[i]? with
    | some x => .ok x
    | none => .error .outOfRange

def take (places : List Nat) : Nat → List Nat → List α → Outcome (List α)
  | 0, n :: rest, cells => return (← pickAll places (pieces n (volume rest) cells)).flatten
  | axis + 1, n :: rest, cells => return (← (pieces n (volume rest) cells).mapM (take places axis rest)).flatten
  | _, [], _ => .error .outOfRange

def reordered (places : List Nat) (axis : Nat) (t : Tensor α) : Outcome (Tensor α) := do
  return ⟨t.shape.set axis places.length, ← take places axis t.shape t.cells⟩

end Tensor
end EprBench
