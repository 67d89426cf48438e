import EprBench.Waveform.Joined

/-! Pulse trains of the sequence mode. A train is played point after point; from point to point each
pulse moves on by its own step. -/
namespace EprBench.Waveform

open Scalar

/-- The pulses of a train, property by property. Lists may be too short; a property is missed only where
a sample needs it. -/
structure Train (α : Type) where
  shapes : List (Option Shape)
  /-- In samples, as are steps and lengths. -/
  starts : List Int
  deltas : List Int
  lengths : List Int
  phases : List α
  sigmas : List α
  frequencies : List (Option (Frequency α))
  steepnesses : List α
  wholeSteepness : Bool
  truncations : List α

namespace Train

variable {α : Type} [Scalar α]

def steadyOnly : Option (Frequency α) → Outcome (Frequency α)
  | some (.steady f) => .ok (.steady f)
  | _ => .error .wrongType

def sweptOnly : Option (Frequency α) → Outcome (Frequency α)
  | some (.swept f g) => .ok (.swept f g)
  | _ => .error .wrongType

def frequencyFor (shape : Shape) (frequency : Option (Frequency α)) : Outcome (Frequency α) :=
  if shape.isSwept then sweptOnly frequency else steadyOnly frequency

def pickIf (needed : Bool) (xs : List α) (index : Nat) : Outcome α := if needed then pick xs index else .ok one

def checkPower (whole : Bool) (steepness : α) : Outcome Unit :=
  if whole && isPositive (one - steepness) then throw .wrongValue else return

def tone (s : Train α) (shape : Shape) (index point : Nat) : Outcome (Tone α) := do
  let start := (← pick s.starts index) + (← pick s.deltas index) * point
  let length ← pick s.lengths index
  let phase ← pick s.phases index
  let frequency ← frequencyFor shape (← pick s.frequencies index)
  let sigma ← pickIf (shape == .gauss || shape == .sinc) s.sigmas index
  let steepness ← pickIf shape.isSwept s.steepnesses index
  let truncation ← pickIf (shape == .sech) s.truncations index
  checkPower (shape == .sech && s.wholeSteepness) steepness
  return { channel := 0, shape, frequency, phase, length, sigma, start, deltaStart := 0, attenuation := one,
           steepness, truncation }

def monoPhases (rate : Int) (p : Tone α) (clock : Int) (random : α) : List α :=
  let (f, g) := p.ends
  match p.shape, p.isRandom with
  | .sech, _ => [p.phase, fullTurn * ofInt clock * (g - f) / two / ofInt rate]
  | .sine, true => [random]
  | _, true => [p.phase, random]
  | _, false => [p.phase]

def stereoPhases (rate : Int) (p : Tone α) (clock : Int) (random : α) (turn : List α) : List α :=
  match p.shape, p.isRandom with
  | .sech, _ => [p.phase, p.carrier rate clock] ++ turn ++ [p.phase]
  | .sine, true | .gauss, true => [random] ++ turn
  | _, true => if turn.isEmpty then [p.phase, random] else [p.phase] ++ turn ++ [random]
  | _, false => [p.phase] ++ turn

def valueAt (rate : Int) (p : Tone α) (t angleTime : Int) (phases : List α) : α :=
  let d := p.start + t - p.centre
  p.gain * p.envelope d * sin (Tone.total (p.angle rate angleTime d p.centre) phases)

def putMono (rate : Int) (p : Tone α) (random : α) (buffer : Array Int) (t : Nat) : Outcome (Array Int) := do
  let i := p.start + t
  let v ← truncate (valueAt rate p t t (monoPhases rate p i random))
  return buffer.setIfInBounds i.toNat (wrapped v)

/-- Writes sample `t` of a tone with two channels. The angle of a steady tone with a fixed phase is
counted from the start of the buffer. -/
def putStereo (rate : Int) (turn : α) (p : Tone α) (random : α) (buffer : Array Int) (t : Nat) :
    Outcome (Array Int) := do
  let i := p.start + t
  let angleTime := if p.shape == .sine && !p.isRandom then i else t
  let first ← truncate (valueAt rate p t angleTime (stereoPhases rate p i random []))
  let buffer := buffer.setIfInBounds (2 * i).toNat (wrapped first)
  let second ← truncate (valueAt rate p t angleTime (stereoPhases rate p i random [turn]))
  return buffer.setIfInBounds (2 * i + 1).toNat (wrapped second)

structure Setting (α : Type) where
  rate : Int
  stereo : Bool
  size : Nat
  turn : α

def readAhead (s : Train α) (shape : Shape) (index : Nat) : Outcome Unit := do
  if shape == .sech then
    let _ ← sweptOnly (← pick s.frequencies index)
  if shape != .sine then
    let _ ← pick s.lengths index

/-- The tone of a pulse at a point and how many samples of it are written, nothing where it is not reached. -/
def pulseAt (size : Nat) (s : Train α) (shape : Shape) (index point : Nat) : Outcome (Option (Tone α × Nat)) := do
  let start := (← pick s.starts index) + (← pick s.deltas index) * point
  s.readAhead shape index
  if start ≥ size then return none
  let length ← pick s.lengths index
  let count := (min (size - start) (length + 1)).toNat
  if count = 0 then return none
  return some (← s.tone shape index point, count)

def putAll (c : Setting α) (random : α) (buffer : Array Int) (p : Tone α) (count : Nat) : Outcome (Array Int) :=
  (List.range count).foldlM (if c.stereo then putStereo c.rate c.turn p random else putMono c.rate p random) buffer

def fillPulse (c : Setting α) (s : Train α) (shape : Shape) (index point : Nat) (random : α) (buffer : Array Int) :
    Outcome (Array Int) := do
  match ← s.pulseAt c.size shape index point with
  | none => return buffer
  | some (p, count) => putAll c random buffer p count

/-- Writes the pulses from number `index` on. A blank pulse ends the point. -/
def fillFrom (c : Setting α) (draws : Nat → α) (s : Train α) (point : Nat) :
    Nat → List (Option Shape) → Array Int → Drawing (Array Int)
  | _, [], buffer => pure buffer
  | index, shape :: rest, buffer => do
    let random ← randomAngle draws
    match shape with
    | some .blank => return buffer
    | some shape =>
      let buffer ← fillPulse c s shape index point random buffer
      fillFrom c draws s point (index + 1) rest buffer
    | none => fillFrom c draws s point (index + 1) rest buffer

def pointBuffer (c : Setting α) (draws : Nat → α) (s : Train α) (point : Nat) : Drawing (Array Int) :=
  fillFrom c draws s point 0 s.shapes (silence c.stereo c.size)

end Train
end EprBench.Waveform
