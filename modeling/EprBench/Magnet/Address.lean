import EprBench.Quantity

/-! Sweep addresses of the field controller. -/
namespace EprBench.Magnet

/-- A sweep address: a whole one, or a place between two of them. -/
inductive Address (α : Type) where
  | step (n : Int)
  | between (x : α)

namespace Address

variable {α : Type} [Quantity α]

def value : Address α → α
  | .step n => Quantity.ofInt n
  | .between x => x

def add : Address α → Int → Address α
  | .step m, n => .step (m + n)
  | .between x, n => .between (x + Quantity.ofInt n)

end Address

end EprBench.Magnet
