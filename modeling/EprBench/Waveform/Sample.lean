import EprBench.Waveform.Tone

/-! The value of a tone at a sample: an envelope times the sine of an angle. Times are counted in samples
from the start of the tone; `d` is the distance from its middle. -/
namespace EprBench.Waveform

def maxCode : Int := 32767

def wrapped (n : Int) : Int := n.bmod (twoTo 16)

namespace Tone

open Scalar

variable {α : Type} [Scalar α]

def gain (p : Tone α) : α := ofInt maxCode / p.attenuation

def middle (p : Tone α) : Int := p.length.tdiv 2

def ends (p : Tone α) : α × α :=
  match p.frequency with
  | .steady f => (f, f)
  | .swept f g => (f, g)

def bell (sigma d : α) : α := exp (-(d * d) * (one / (two * (sigma * sigma))))

def flank (length steepness d : α) : α := one - power (abs (sin (pi * d / length))) steepness

def secant (truncation length steepness d : α) : α :=
  one / cosh (truncation * length * power two (steepness - one) * power (d / length) steepness)

def envelope (p : Tone α) (d : Int) : α :=
  match p.shape with
  | .gauss => bell p.sigma (ofInt d)
  | .sinc => sinc (ofInt (2 * d) / p.sigma)
  | .wurst => flank (ofInt p.length) p.steepness (ofInt d)
  | .sech => secant p.truncation (ofInt p.length) p.steepness (ofInt d)
  | _ => one

def steadyAngle (rate frequency t : α) : α := fullTurn * t * frequency / rate

def sweepAngle (rate length f g t : α) : α :=
  fullTurn * (t * f / rate + half * (g - f) * (t * t) / length / rate)

def sechAngle (rate truncation f g d centre : α) : α :=
  fullTurn * (g - f) / rate / truncation * log (cosh (truncation * d)) / two / tanh (truncation * centre)

def angle (rate : Int) (p : Tone α) (t d centre : Int) : α :=
  let (f, g) := p.ends
  match p.shape with
  | .wurst => sweepAngle (ofInt rate) (ofInt p.length) f g (ofInt t)
  | .sech => sechAngle (ofInt rate) p.truncation f g (ofInt d) (ofInt centre)
  | _ => steadyAngle (ofInt rate) f (ofInt t)

def carrier (rate : Int) (p : Tone α) (clock : Int) : α :=
  let (f, g) := p.ends
  fullTurn * ofInt clock * ((g + f) / two) / ofInt rate

def total (angle : α) (phases : List α) : α := phases.foldl (· + ·) angle

def isPlayed (p : Tone α) : Bool :=
  match p.shape with
  | .sine | .gauss | .sinc | .wurst | .sech => true
  | _ => false

def checkDivisors (p : Tone α) (d : Int) : Outcome Unit := do
  if isZero p.attenuation then throw .divisionByZero
  match p.shape with
  | .gauss | .sinc => if isZero p.sigma then throw .divisionByZero
  | .wurst => if p.length = 0 || (d = 0 && isPositive (-p.steepness)) then throw .divisionByZero
  | .sech =>
    if p.length = 0 || (d = 0 && isPositive (-p.steepness)) || isZero p.truncation then throw .divisionByZero
  | _ => return

def phases (rate : Int) (p : Tone α) (clock : Int) : List α :=
  match p.shape with
  | .sech => [p.phase, p.carrier rate clock]
  | _ => [p.phase]

def value (rate : Int) (p : Tone α) (t clock : Int) : α :=
  let d := t - p.middle
  p.gain * p.envelope d * sin (total (p.angle rate t d p.middle) (p.phases rate clock))

def sample (rate : Int) (p : Tone α) (t clock : Int) : Outcome Int := do
  p.checkDivisors (t - p.middle)
  return wrapped (← truncate (p.value rate t clock))

end Tone
end EprBench.Waveform
