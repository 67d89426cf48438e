import EprBench.Command
import EprBench.Fit.LeastSquares
import EprBench.Value.Operand

/-! A decay fitted to a curve. -/
namespace EprBench.Fit

open Value

structure Decay where
  amplitude : Float
  time : Float
  level : Float

def Decay.value (d : Decay) (x : Float) : Float := d.amplitude * Float.exp (-x / d.time) + d.level

def Decay.ofList? : List Float → Option Decay
  | [a, k, b] => some ⟨a, k, b⟩
  | _ => none

/-- The exponent of a decay. Two plain numbers are divided as such, so that a time of zero is a fault. -/
def exponent (x time : Value) : Outcome (Tensor Float) := do
  if x.isArray || time.isArray then
    let xs ← x.toTensor
    let ts ← if x.isArray then time.besideArray else time.toTensor
    xs.zipWith (fun x t => -x / t) ts
  else
    let negative ← (Number.int 0).sub (← x.operand)
    return .scalar (← negative.div (← time.operand))

def decayAt (x amplitude time level : Value) : Outcome Value := do
  let e := (← exponent x time).map Float.exp
  let a ← if e.shape.isEmpty then amplitude.toTensor else amplitude.besideArray
  let scaled ← a.zipWith (· * ·) e
  let sum ← scaled.zipWith (· + ·) (← level.besideArray)
  match sum.shape, sum.cells with
  | [], [y] => return .float y
  | _, _ => return ofTensor sum

def rowOf (curve : Value) (i : Nat) : Outcome Value :=
  match curve with
  | .floats [_] data => part (data[i]?.map .float)
  | .ints [_] data => part (data[i]?.map .int)
  | .floats (n :: rest) data => block n rest (Value.floats rest) data
  | .ints (n :: rest) data => block n rest (Value.ints rest) data
  | .dict _ => .error .noKey
  | v => v.nth i
where
  part (v : Option Value) : Outcome Value := match v with
    | some v => .ok v
    | none => .error .outOfRange
  block {α : Type} (n : Nat) (rest : List Nat) (make : Array α → Value) (data : Array α) : Outcome Value :=
    let size := Tensor.volume rest
    if i < n then .ok (make (data.extract (i * size) ((i + 1) * size))) else .error .outOfRange

def finite (v : Value) : Outcome (Tensor Float) := do
  let (shape, data) ← v.toFloats
  if data.all Decimal.isFinite then return ⟨shape, data.toList⟩ else throw .wrongValue

def guessOf : Value → Outcome (List Value)
  | .nothing => .ok [1, 1, 1]
  | v => do return (← v.cells).2

def placesOf : Value → Outcome (Tensor Float)
  | .list xs => finite (.list xs)
  | .tuple xs => finite (.tuple xs)
  | v => if v.isArray then finite v else v.toTensor

def fitted (x y guess : Value) : Outcome Decay := do
  let start ← guessOf guess
  let ys ← finite y
  let xs ← placesOf x
  let points := ys.cells.length
  if points = 0 then throw .wrongValue
  if points ≠ 1 ∧ start.length > points then throw .wrongType
  let numbers ← start.mapM fun v => do (← v.operand).real
  let some first := Decay.ofList? numbers | throw .wrongType
  let sample ← (xs.map first.value).zipWith (· - ·) ys
  match sample.shape with
  | [m] => if m < numbers.length then throw .wrongType
  | _ => throw .wrongType
  let deviations (p : List Float) : List Float :=
    match Decay.ofList? p with
    | none => []
    | some d =>
      match (xs.map d.value).zipWith (· - ·) ys with
      | .ok t => t.cells
      | .error _ => []
  match (leastSquares deviations numbers).bind Decay.ofList? with
  | some d => return d
  | none => throw .runtime

def twoRows (xs ys : List Float) : Outcome Value :=
  if xs.length = ys.length then .ok (.floats [2, xs.length] (xs ++ ys).toArray) else .error .wrongValue

def mean (xs : List Float) : Float := sum xs / Decimal.ofInt xs.length

def squares (xs : List Float) : Float := sum (xs.map fun x => x * x)

def fit (curve guess : Value) : Outcome Value := do
  let x ← rowOf curve 0
  let y ← rowOf curve 1
  let d ← fitted x y guess
  if !x.isArray then throw .wrongType
  let xs ← x.toTensor
  let ys ← finite y
  let shown := xs.map d.value
  let left ← ys.zipWith (· - ·) shown
  let model ← twoRows xs.cells shown.cells
  let rest ← twoRows xs.cells left.cells
  let centre := mean ys.cells
  let spread := squares (ys.cells.map (· - centre))
  return .tuple [model, rest, .float (1 - squares left.cells / spread)]

def fitter : Instrument where
  State := Unit
  tellsMode := false
  start := return
  commands := [
    .fixed "exponential" ["x", "a", "k", "b"] fun
      | [x, a, k, b] => liftM (decayAt x a k b)
      | _ => throw .wrongType,
    .fixed "one_exp_fit" ["curve", "guess_array"] fun
      | [curve, guess] => liftM (fit curve guess)
      | _ => throw .wrongType]

end EprBench.Fit
