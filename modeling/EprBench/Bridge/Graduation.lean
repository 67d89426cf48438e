import EprBench.Quantity

/-! Settings in equal steps, counted from zero in one byte. -/
namespace EprBench.Bridge

inductive Graduation where
  /-- So many steps make a unit. -/
  | fraction (n : Nat)
  | decimal (m e : Nat)
  | whole (n : Nat)

namespace Graduation

section

variable {α : Type} [Quantity α]

def steps : Graduation → α → α
  | fraction n, x => Quantity.ofInt n * x
  | decimal m e, x => x / Quantity.decimal m e
  | whole n, x => x / Quantity.ofInt n

def code (g : Graduation) (x : α) : Outcome Int := Quantity.truncated (g.steps x)

def isExact (g : Graduation) (x : α) (code : Int) : Bool := Quantity.isWhole (g.steps x) code

def amount : Graduation → Int → α
  | fraction n, k => Quantity.ofInt k / Quantity.ofInt n
  | decimal m e, k => Quantity.ofInt k * Quantity.decimal m e
  | whole n, k => Quantity.ofInt (k * n)

end

def text : Graduation → Int → String
  | whole n, k => Decimal.intText (k * n)
  | g, k => Decimal.floatText (g.amount k)

def byte (code : Int) : Outcome UInt8 :=
  if 0 ≤ code && code ≤ 255 then .ok code.toNat.toUInt8 else .error .misfit

end Graduation

end EprBench.Bridge
