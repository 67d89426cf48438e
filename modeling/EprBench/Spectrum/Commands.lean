import EprBench.Command
import EprBench.Spectrum.Transform
import EprBench.Value.Operand

/-! Spectra of recorded signals and the correction of their phase. A rehearsal computes as a live session does. -/
namespace EprBench.Spectrum

open Value

def turned (t : Tensor Float) : Tensor (Phasor Float) := t.map fun x => Phasor.quarter * Phasor.ofReal x

def signal (inPhase quadrature : Value) : Outcome (Tensor (Phasor Float)) := do
  let q ← quadrature.toTensor
  let i ← if quadrature.isArray then inPhase.besideArray else inPhase.toTensor
  (i.map Phasor.ofReal).zipWith (· + ·) (turned q)

def rankOf (v : Value) : Outcome Nat := do return (← v.arrayShape).length

def pointsOf (v : Value) : Outcome Nat := do
  match (← v.arrayShape).getLast? with
  | some n => return n
  | none => throw .outOfRange

def frequenciesOfAll (n : Nat) (spacings : Tensor Float) : Outcome (List Float) := do
  let units := spacings.map fun d => 1 / (Decimal.ofInt n * (d * Quantity.decimal 1 3))
  let ks : Tensor Float := ⟨[n], (turns n).map Decimal.ofInt⟩
  return (← ks.zipWith (· * ·) units).cells

def frequenciesOf (axis spacing : Value) : Outcome (List Float) := do
  let n ← pointsOf axis
  if spacing.isArray then frequenciesOfAll n (← spacing.toTensor)
  else frequencies n (← (← spacing.operand).real)

def spectrumOf (axis inPhase quadrature spacing form : Value) : Outcome Value := do
  if ← form.equals "False" then
    let data ← signal inPhase quadrature
    let (fs, sizes) ← magnitudes doubles data (frequenciesOf axis spacing)
    return .tuple [.floatRow fs.toArray, ofTensor sizes]
  else if ← form.equals "True" then
    let data ← signal inPhase quadrature
    let rank ← rankOf inPhase
    let (along, place) := if rank = 1 then (data.shape.length - 1, 0) else (1, 1)
    let (fs, re, im) ← parts doubles along place data (frequenciesOf axis spacing)
    return .tuple [.floatRow fs.toArray, ofTensor re, ofTensor im]
  else return .nothing

def timesAxis (factor : Tensor (Phasor Float)) (beside : Value) (axis : Value) : Outcome (Tensor (Phasor Float)) := do
  let f ← if beside.isArray then axis.besideArray else axis.toTensor
  factor.zipWith (· * ·) (f.map Phasor.ofReal)

def phaseFactor (axis constant linear quadratic : Value) : Outcome (Tensor (Phasor Float)) := do
  let c := turned (← constant.toTensor)
  let l ← timesAxis (turned (← linear.toTensor)) linear axis
  let sum ← c.zipWith (· + ·) l
  let q ← timesAxis (turned (← quadratic.toTensor)) quadratic axis
  let bent ← timesAxis q quadratic axis
  return (← sum.zipWith (· + ·) bent).map Phasor.exp

def corrected (axis inPhase quadrature constant linear quadratic : Value) : Outcome Value := do
  let data ← signal inPhase quadrature
  let result ← data.zipWith (· * ·) (← phaseFactor axis constant linear quadratic)
  let laid ← if (← rankOf inPhase) = 1 then pure result else pure result.transposed
  return .floats (2 :: laid.shape) ((laid.cells.map (·.re)) ++ (laid.cells.map (·.im))).toArray

def analyser : Instrument where
  State := Unit
  start := return ()
  commands := [
    { name := "fft"
      parameters := [.needed "x_axis", .needed "data_i", .needed "data_q", .needed "sample_spacing",
        .withDefault "re" "False"]
      run := fun g => match g.values with
        | [axis, i, q, spacing, form] => liftM (spectrumOf axis i q spacing form)
        | _ => throw .wrongType },
    .fixed "ph_correction" ["freq", "data_i", "data_q", "cor1", "cor2", "cor3"] fun
      | [axis, i, q, c, l, s] => liftM (corrected axis i q c l s)
      | _ => throw .wrongType]

end EprBench.Spectrum
