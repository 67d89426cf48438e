import EprBench.Quantity

/-! Numbers that a waveform is computed with. The formulas are written over any kind of number that has the functions
they need. -/
namespace EprBench.Waveform

class Scalar (α : Type) extends Add α, Sub α, Mul α, Div α, Neg α where
  ofInt : Int → α
  half : α
  pi : α
  sin : α → α
  exp : α → α
  log : α → α
  cosh : α → α
  tanh : α → α
  abs : α → α
  sqrt : α → α
  arctan2 : α → α → α
  power : α → α → α
  isZero : α → Bool
  isPositive : α → Bool
  truncate : α → Outcome Int
  ceiling : α → Outcome Int

instance : Scalar Float where
  ofInt := Decimal.ofInt
  half := 0.5
  pi := 3.141592653589793
  sin := Float.sin
  exp := Float.exp
  log := Float.log
  cosh := Float.cosh
  tanh := Float.tanh
  abs := Float.abs
  sqrt := Float.sqrt
  arctan2 := Float.atan2
  power := Float.pow
  isZero x := x == 0
  isPositive x := x > 0
  truncate := Value.truncated
  ceiling := Quantity.ceiling

namespace Scalar

variable {α : Type} [Scalar α]

def one : α := ofInt 1

def two : α := ofInt 2

def fullTurn : α := two * pi

def tiny : α := one / ofInt (tenTo 20)

def sinc (x : α) : α :=
  let y := pi * (if isZero x then tiny else x)
  sin y / y

end Scalar
end EprBench.Waveform
