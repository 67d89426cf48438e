import EprBench.Value.Convert

/-! Arithmetic of values that are numbers. Whole numbers stay whole under addition, subtraction,
multiplication and floored division; any real operand makes the result real. -/
namespace EprBench.Value

open Decimal

def flooredQuotient (x y : Float) : Float :=
  let r := truncatedRemainder x y
  let q := (x - r) / y
  let q := if r != 0 && (decide (y < 0) != decide (r < 0)) then q - 1 else q
  if q != 0 then
    let f := q.floor
    if q - f > 0.5 then f + 1 else f
  else if (x / y).toBits >>> 63 == 1 then -0.0 else 0.0

namespace Number

def real : Number → Outcome Float
  | .int n => realOfInt n
  | .float x => .ok x

def lift (onInts : Int → Int → Int) (onReals : Float → Float → Float) (a b : Number) : Outcome Number :=
  match a, b with
  | .int m, .int n => .ok (.int (onInts m n))
  | _, _ => return .float (onReals (← a.real) (← b.real))

def add : Number → Number → Outcome Number := lift (· + ·) (· + ·)
def sub : Number → Number → Outcome Number := lift (· - ·) (· - ·)
def mul : Number → Number → Outcome Number := lift (· * ·) (· * ·)

def isZero : Number → Bool
  | .int n => n == 0
  | .float x => x == 0

def floorDiv (a b : Number) : Outcome Number :=
  if b.isZero then .error .divisionByZero else lift Int.fdiv flooredQuotient a b

def mod (a b : Number) : Outcome Number :=
  if b.isZero then .error .divisionByZero else lift Int.fmod flooredRemainder a b

def div (a b : Number) : Outcome Float :=
  if b.isZero then .error .divisionByZero
  else
    match a, b with
    | .int m, .int n =>
      let q := ofQuotient m n
      if isFinite q then .ok q else .error .overflow
    | _, _ => return (← a.real) / (← b.real)

def value : Number → Value
  | .int n => .int n
  | .float x => .float x

end Number

def operand (v : Value) : Outcome Number :=
  match v.number? with
  | some n => .ok n
  | none => .error .wrongType

def rounded (places : Nat) (v : Value) : Outcome Value := do
  match ← operand v with
  | .int n => return .int n
  | .float x => return .float (roundPlaces x places)

end EprBench.Value
