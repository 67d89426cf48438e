import EprBench.Quantity
import EprBench.Value.Operand

/-! Acquisition cycles: the records of a phase cycle are added up, each turned by a quarter of the
circle as its entry says, and divided by their number. -/
namespace EprBench.Pulser.Cycle

structure Quadratures (α : Type) where
  re : α
  im : α

inductive Turn where
  | none
  | quarter
  | half
  | back

def turns : List (String × Turn) :=
  [("+", .none), ("+x", .none), ("-", .half), ("-x", .half), ("+i", .quarter), ("+y", .quarter), ("-i", .back),
    ("-y", .back)]

variable {α : Type} [Quantity α]

/-- Adds a turned sample of the first record to a sum. -/
def Turn.first (t : Turn) (s : Quadratures α) (a : α) : Quadratures α :=
  match t with
  | .none => ⟨s.re + a, s.im⟩
  | .half => ⟨s.re - a, s.im⟩
  | .quarter => ⟨s.re, s.im + a⟩
  | .back => ⟨s.re, s.im - a⟩

/-- Adds a turned sample of the second record to a sum. -/
def Turn.second (t : Turn) (s : Quadratures α) (b : α) : Quadratures α :=
  match t with
  | .none => ⟨s.re, s.im + b⟩
  | .half => ⟨s.re, s.im - b⟩
  | .quarter => ⟨s.re - b, s.im⟩
  | .back => ⟨s.re + b, s.im⟩

/-! ### Arrays of records -/

def record {β : Type} (t : Tensor β) (j : Nat) : Outcome (Tensor β) :=
  match t.shape with
  | [] => .error .outOfRange
  | n :: rest =>
    match (Tensor.pieces n (Tensor.volume rest) t.cells)[j]? with
    | some cells => .ok ⟨rest, cells⟩
    | none => .error .outOfRange

def addRecords (first second : Tensor α) (sum : Tensor (Quadratures α)) (entry : Value × Nat) :
    Outcome (Tensor (Quadratures α)) := do
  match ← entry.1.choice turns with
  | none => return sum
  | some t =>
    let sum ← sum.zipWith t.first (← record first entry.2)
    sum.zipWith t.second (← record second entry.2)

/-- The records are added up in an array of the common shape of both arrays, and the first row of the mean is told. -/
def average (first second : Tensor α) (cycle : Value) : Outcome (Tensor α × Tensor α) := do
  let start ← first.zipWith (fun _ _ => ⟨Quantity.zero, Quantity.zero⟩) second
  let entries ← cycle.items
  let sum ← entries.zipIdx.foldlM (addRecords first second) start
  let n : α := Quantity.ofInt entries.length
  return (← record (sum.map fun s => s.re / n) 0, ← record (sum.map fun s => s.im / n) 0)

def asArray (v : Value) : Outcome (Tensor Float) := do
  let _ ← v.arrayShape
  v.toTensor

def told (t : Tensor Float) : Value := if t.shape.isEmpty then .float (t.cells.headD 0) else .ofTensor t

def averageOf (first second cycle : Value) : Outcome Value := do
  let (re, im) ← average (← asArray first) (← asArray second) cycle
  return .tuple [told re, told im]

def rehearse (first second cycle : Value) : Outcome Value := do
  let n ← cycle.size
  let n1 ← first.size
  ensure (n == n1) "Acquisition cycle and Data 1 have incompatible size"
  let n2 ← second.size
  ensure (n == n2) "Acquisition cycle and Data 2 have incompatible size"
  let _ ← asArray first
  let _ ← asArray second
  averageOf first second (.list (List.replicate n .nothing))

end EprBench.Pulser.Cycle
