import EprBench.Value.Convert

/-! The numbers in which fields and voltages are computed. A session uses doubles; what holds for the exact
rules is said for any numbers of this kind. -/
namespace EprBench

class Quantity (α : Type) extends Add α, Sub α, Mul α, Div α where
  ofInt : Int → α
  decimal : Nat → Nat → α
  lt : α → α → Bool
  le : α → α → Bool
  abs : α → α
  /-- The nearest whole number, an exact half going to the even one. -/
  nearest : α → Outcome Int
  floor : α → Outcome Int
  ceiling : α → Outcome Int
  rounded : Nat → α → α
  text : α → String
  places : α → String

def wholeOr (x : Float) : Option Int → Outcome Int
  | some n => .ok n
  | none => .error (if x.isNaN then .wrongValue else .overflow)

instance : Quantity Float where
  ofInt := Decimal.ofInt
  decimal m e := Float.ofScientific m true e
  lt a b := a < b
  le a b := a ≤ b
  abs := Float.abs
  nearest x := wholeOr x (Decimal.nearestInt? x)
  floor x := wholeOr x (Decimal.floor? x)
  ceiling x := wholeOr x (Decimal.ceiling? x)
  rounded n x := Decimal.roundPlaces x n
  text := Decimal.floatText
  places := Decimal.fixedText 3

namespace Quantity

variable {α : Type} [Quantity α]

def zero : α := ofInt 0

def isZero (x : α) : Bool := le x zero && le zero x

def half : α := decimal 5 1

def truncated (x : α) : Outcome Int := if lt x zero then ceiling x else floor x

def isWhole (x : α) (n : Int) : Bool := le x (ofInt n) && le (ofInt n) x

def quotient (x y : α) : Outcome α := if isZero y then .error .divisionByZero else .ok (x / y)

end Quantity

end EprBench
