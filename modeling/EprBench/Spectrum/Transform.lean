import EprBench.Quantity
import EprBench.Spectrum.Phasor

/-! The spectrum of a signal: its harmonics in the order of rising frequency. -/
namespace EprBench.Spectrum

open Quantity

variable {α : Type}

structure Transform (α : Type) where
  harmonics : List (Phasor α) → List (Phasor α)
  modulus : Phasor α → α

def turns (n : Nat) : List Int :=
  (List.range ((n + 1) / 2)).map Int.ofNat ++ (List.range (n / 2)).map fun (k : Nat) => (k : Int) - (n / 2 : Nat)

def frequencies [Quantity α] (n : Nat) (spacing : α) : Outcome (List α) := do
  let unit ← quotient (ofInt 1) (ofInt n * (spacing * decimal 1 3))
  return (turns n).map fun k => ofInt k * unit

def ascending [Quantity α] (xs : List α) : List Nat :=
  (xs.zipIdx.mergeSort fun a b => le a.1 b.1 || !le b.1 b.1).map (·.2)

def Transform.along (t : Transform α) (axis : Nat) (data : Tensor (Phasor α)) : Outcome (Tensor (Phasor α)) :=
  match data.shape[axis]? with
  | none => .error .outOfRange
  | some 0 => .error .wrongValue
  | some _ => .ok ⟨data.shape, Tensor.alongAxis t.harmonics axis data.shape data.cells⟩

def magnitudes [Quantity α] (t : Transform α) (data : Tensor (Phasor α)) (frequencies : Outcome (List α)) :
    Outcome (List α × Tensor α) := do
  let spectrum ← t.along (data.shape.length - 1) data
  let fs ← frequencies
  let order := ascending fs
  return (← Tensor.pickAll order fs, (← spectrum.reordered order 0).map t.modulus)

def parts [Quantity α] (t : Transform α) (axis place : Nat) (data : Tensor (Phasor α))
    (frequencies : Outcome (List α)) : Outcome (List α × Tensor α × Tensor α) := do
  let spectrum ← t.along axis data
  let fs ← frequencies
  let order := ascending fs
  let sorted ← (← spectrum.reordered order place).fitted data.shape
  return (← Tensor.pickAll order fs, sorted.map (·.re), sorted.map (·.im))

def stepBack (n k : Nat) : Phasor Float :=
  let angle := 2 * 3.141592653589793 * Decimal.ofInt k / Decimal.ofInt n
  ⟨Float.cos angle, -Float.sin angle⟩

def rowHarmonics (xs : List (Phasor Float)) : List (Phasor Float) :=
  let n := xs.length
  let steps := ((List.range n).map (stepBack n)).toArray
  (List.range n).map fun k =>
    xs.zipIdx.foldl (fun sum x => sum + x.1 * steps.getD (x.2 * k % n) ⟨0, 0⟩) ⟨0, 0⟩

def doubles : Transform Float := ⟨rowHarmonics, Phasor.modulus⟩

end EprBench.Spectrum
