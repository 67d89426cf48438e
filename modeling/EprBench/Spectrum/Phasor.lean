/-! Amplitudes with a phase. -/
namespace EprBench

structure Phasor (α : Type) where
  re : α
  im : α

namespace Phasor

variable {α : Type}

instance [Add α] : Add (Phasor α) := ⟨fun a b => ⟨a.re + b.re, a.im + b.im⟩⟩

instance [Add α] [Sub α] [Mul α] : Mul (Phasor α) :=
  ⟨fun a b => ⟨a.re * b.re - a.im * b.im, a.re * b.im + a.im * b.re⟩⟩

def ofReal (x : Float) : Phasor Float := ⟨x, 0⟩

def quarter : Phasor Float := ⟨0, 1⟩

def exp (a : Phasor Float) : Phasor Float :=
  let size := Float.exp a.re
  if a.im == 0 then ⟨size, a.im⟩ else ⟨size * Float.cos a.im, size * Float.sin a.im⟩

def modulus (a : Phasor Float) : Float :=
  let x := a.re.abs
  let y := a.im.abs
  if x.isInf || y.isInf then 1.0 / 0.0
  else if (x + y).isNaN then 0.0 / 0.0
  else
    let most := if x < y then y else x
    if most == 0 then 0
    else
      let u := x / most
      let v := y / most
      most * Float.sqrt (u * u + v * v)

end Phasor
end EprBench
