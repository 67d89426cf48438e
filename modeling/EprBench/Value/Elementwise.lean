import EprBench.Value.Arithmetic

/-! Arithmetic with arrays, cell by cell. Where two numbers give a fault, cells give an infinity, not-a-number or
zero; whole cells are 64 bits wide and wrap. -/
namespace EprBench.Value

structure Operation where
  onNumbers : Number → Number → Outcome Number
  onWhole : Option (Int → Int → Int)
  onReals : Float → Float → Float

def wrapped (n : Int) : Int := n.bmod (twoTo 64)

def fitsCell (n : Int) : Bool := wrapped n == n

def checkFit (v : Value) : Outcome Unit :=
  match v with
  | .int n => if fitsCell n then .ok () else .error .overflow
  | _ => .ok ()

namespace Operation

def sum : Operation := ⟨Number.add, some (· + ·), (· + ·)⟩
def difference : Operation := ⟨Number.sub, some (· - ·), (· - ·)⟩
def product : Operation := ⟨Number.mul, some (· * ·), (· * ·)⟩
def quotient : Operation := ⟨fun a b => .float <$> a.div b, none, (· / ·)⟩

def flooredQuotient : Operation :=
  ⟨Number.floorDiv, some Int.fdiv, fun x y => if y == 0 then x / y else Value.flooredQuotient x y⟩

def remainder : Operation :=
  ⟨Number.mod, some fun m n => if n == 0 then 0 else m.fmod n,
    fun x y => if y == 0 then 0.0 / 0.0 else Decimal.flooredRemainder x y⟩

def apply (op : Operation) (a b : Value) : Outcome Value := do
  if a.isArray || b.isArray then
    match ← a.numbers, ← b.numbers, op.onWhole with
    | .whole s, .whole t, some f =>
      a.checkFit
      b.checkFit
      return (Numbers.whole ((← s.zipWith f t).map wrapped)).value
    | xs, ys, _ => return (Numbers.real (← xs.reals.zipWith op.onReals ys.reals)).value
  else return (← op.onNumbers (← a.operand) (← b.operand)).value

end Operation

def plus : Value → Value → Outcome Value := Operation.sum.apply
def minus : Value → Value → Outcome Value := Operation.difference.apply
def times : Value → Value → Outcome Value := Operation.product.apply
def dividedBy : Value → Value → Outcome Value := Operation.quotient.apply
def stepsOf : Value → Value → Outcome Value := Operation.flooredQuotient.apply
def remainder : Value → Value → Outcome Value := Operation.remainder.apply

def positive (v : Value) : Outcome Value := do
  if v.isArray then
    match ← v.numbers with
    | .whole t => return (Numbers.whole (t.map fun n => if n > 0 then 1 else 0)).value
    | .real t => return (Numbers.whole (t.map fun x => if x > 0 then 1 else 0)).value
  else return .int (if ← v.gt 0 then 1 else 0)

def square (v : Value) : Outcome Value := do
  if v.isArray then v.times v
  else
    match ← v.operand with
    | .int n => return .int (n * n)
    | .float x =>
      let y := Float.pow x 2
      if Decimal.isFinite x && !Decimal.isFinite y then throw .overflow
      return .float y

def multipleOf (x y : Value) : Outcome Int := do
  let steps ← x.stepsOf y
  let more ← (← x.remainder y).positive
  (← y.times (← steps.plus more)).toInt

def nearest (v : Value) : Outcome Value := do
  if v.isArray then return (Numbers.real ((← v.numbers).reals.map Decimal.nearestWhole)).value
  else return .float (Decimal.nearestWhole (← (← v.operand).real))

end EprBench.Value
