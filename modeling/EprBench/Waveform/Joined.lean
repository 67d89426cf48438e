import EprBench.Waveform.Buffer

/-! Joined buffers: the tones of one channel, each at its own start; the second of two channels is turned by a fixed
phase. -/
namespace EprBench.Waveform

open Scalar

/-- Filling a buffer while drawing random numbers. The state is the number of draws. -/
abbrev Drawing := ExceptT Fault (StateM Nat)

instance : MonadLift Outcome Drawing := ⟨fun x => ExceptT.mk (pure x)⟩

variable {α : Type} [Scalar α]

def randomAngle (draws : Nat → α) : Drawing α := do
  let k ← get
  set (k + 1)
  return fullTurn * draws k

namespace Tone

def isRandom (p : Tone α) : Bool := isZero (p.phase - ofInt 1000)

def centre (p : Tone α) : Int := (2 * p.start + p.length).tdiv 2

end Tone

def joinedSize (tones : List (Tone α)) : Int :=
  match tones.getLast? with
  | some p => roundUp (p.start + p.length) blockSize
  | none => 0

/-! ### One channel -/

namespace Tone

/-- Sample `t` of a tone with a random phase, drawn anew for each sample. The phase of a steady tone is
added to the sample itself. -/
def randomValue (rate : Int) (p : Tone α) (t d : Int) (turn : α) : α :=
  let angle := p.angle rate t d p.centre
  match p.shape with
  | .sine => p.gain * sin (total angle [p.phase]) + turn
  | _ => p.gain * p.envelope d * sin (total angle [p.phase, turn])

def monoValue (rate : Int) (draws : Nat → α) (p : Tone α) (t : Int) : Drawing α := do
  let i := p.start + t
  let d := i - p.centre
  if p.isRandom && p.shape != .sech then
    return p.randomValue rate t d (← randomAngle draws)
  return p.gain * p.envelope d * sin (total (p.angle rate t d p.centre) (p.phases rate i))

/-- Writes a tone into a joined buffer of one channel. There is no rule for a cardinal sine with a fixed
phase; `missing` says so. -/
def fillMono (rate : Int) (draws : Nat → α) (missing : Fault) (size : Int) (buffer : Array Int) (p : Tone α) :
    Drawing (Array Int) := do
  if !p.isPlayed then return buffer
  let count := (min (size - p.start) (p.length + 1)).toNat
  if count > 0 && p.shape == .sinc && !p.isRandom then throw missing
  (List.range count).foldlM (fun (buffer : Array Int) (t : Nat) => do
    let v ← truncate (← p.monoValue rate draws t)
    return buffer.setIfInBounds (p.start + t).toNat (wrapped v)) buffer

end Tone

def monoBuffer (rate : Int) (draws : Nat → α) (missing : Fault) (size : Nat) (tones : List (Tone α)) :
    Drawing (Array Int) :=
  tones.foldlM (Tone.fillMono rate draws missing size) (silence false size)

/-! ### Two channels -/

def clampIndex (n : Nat) (i : Int) : Nat := if i < 0 then (i + n).toNat else min n i.toNat

def slots (n : Nat) (channel : Nat) (lo hi : Int) : List Nat :=
  let first := clampIndex n (2 * lo) + channel
  let last := clampIndex n (2 * hi)
  (List.range ((last + 1 - first) / 2)).map fun i => first + 2 * i

def assign (buffer : Array Int) (places : List Nat) (values : List Int) : Outcome (Array Int) :=
  if values.length = places.length then
    .ok ((places.zip values).foldl (fun b e => b.setIfInBounds e.1 e.2) buffer)
  else
    match values with
    | [v] => .ok (places.foldl (fun b i => b.setIfInBounds i v) buffer)
    | _ => .error .wrongValue

/-- A number as it is stored; one that is none or too large is stored as zero. -/
def stored (x : α) : Int :=
  match truncate x with
  | .ok n => if -(twoTo 63 : Int) ≤ n && n < twoTo 63 then wrapped n else 0
  | .error _ => 0

structure Response (α : Type) where
  turns : List α
  factors : Option (List α) := none

namespace Response

def quality : Int := 78

def resonance : Int := 9700

def spaced (first last step : α) : Outcome (List α) := do
  let span := last - first
  let q := span / step
  let n ← if isZero q && !isZero span then pure 1 else ceiling q
  let delta := first + step - first
  return (List.range n.toNat).map fun (i : Nat) =>
    if i = 0 then first else if i = 1 then first + step else first + ofInt i * delta

def reciprocal (y : α) : α × α :=
  if isPositive (abs y - one) then
    let ratio := one / y
    let scale := one / (y + ratio)
    (ratio * scale, -scale)
  else
    let scale := one / (one + y * y)
    (scale, -y * scale)

def atFrequency (frequency : α) : α × α :=
  let f0 : α := ofInt resonance
  reciprocal (ofInt quality * (frequency / f0 - f0 / frequency))

def ofTone (p : Tone α) : Outcome (Response α) := do
  let (f, g) := p.ends
  let axis ← spaced (f + ofInt resonance) (g + ofInt resonance) ((g - f) / ofInt p.length)
  let answers := axis.reverse.map Response.atFrequency
  let turns := answers.map fun (re, im) => arctan2 im re
  if (← truncate p.attenuation) > 1 then
    let sizes := answers.map fun (re, im) => one / sqrt (re * re + im * im)
    match sizes with
    | [] => throw .outOfRange
    | first :: _ => return ⟨turns, some (sizes.map (· / first))⟩
  else return ⟨turns, none⟩

def commonLength (m n : Nat) : Outcome Nat :=
  if m = n || n = 1 then .ok m else if m = 1 then .ok n else .error .wrongValue

def element (xs : List α) (i : Nat) (none : α) : α :=
  match xs with
  | [x] => x
  | xs => xs.getD i none

end Response

namespace Tone

def write (channel : Nat) (buffer : Array Int) (p : Tone α) (values : List α) : Outcome (Array Int) :=
  assign buffer (slots buffer.size channel p.start (p.start + p.length)) (values.map stored)

def times (p : Tone α) : List Int := (List.range p.length.toNat).map fun (t : Nat) => (t : Int)

def steadyValues (rate : Int) (p : Tone α) (phases : List α) : List α :=
  p.times.map fun t =>
    let d := p.start + t - p.centre
    p.gain * p.envelope d * sin (total (p.angle rate t d p.centre) phases)

def stereoSweep (rate : Int) (p : Tone α) (t : Int) : α :=
  let (f, g) := p.ends
  let r : α := ofInt rate
  fullTurn * (ofInt t * (f / r) + half * (g - f) / r * ofInt (t * t) / ofInt p.length)

def sweepValues (rate : Int) (p : Tone α) (phases : List α) : List α :=
  p.times.map fun t =>
    let d := p.start + t - p.centre
    p.gain * p.envelope d * sin (total (p.stereoSweep rate t) phases)

def correctedValues (rate : Int) (p : Tone α) (r : Response α) (phases : List α) : Outcome (List α) := do
  let n := p.length.toNat
  let m ← Response.commonLength n r.turns.length
  return (List.range m).map fun (i : Nat) =>
    let t : Int := if n = 1 then 0 else i
    let d := p.start + t - p.centre
    let turn := Response.element r.turns i (ofInt 0)
    let gain := match r.factors with
      | some cs => ofInt maxCode * Response.element cs i one / p.attenuation
      | none => p.gain
    gain * p.envelope d * sin (total (p.stereoSweep rate t) (phases ++ [turn]))

def sechValues (rate : Int) (p : Tone α) (phases : List α) : List α :=
  let (f, g) := p.ends
  p.times.map fun t =>
    let d := p.start + t - p.centre
    let carrier := fullTurn * ((g + f) / two) / ofInt rate * ofInt t
    p.gain * p.envelope d * sin (total (p.angle rate t d p.centre) (phases ++ [carrier]))

def chirpValues (rate : Int) (p : Tone α) (phase : α) : List α :=
  let (f, g) := p.ends
  let r : α := ofInt rate
  let slope := (g / r - f / r) / ofInt p.length
  p.times.map fun t =>
    p.gain * sin (fullTurn * (f / r * ofInt t + half * slope * ofInt t * ofInt t) + phase)

def plainValues (rate : Int) (p : Tone α) (phase : α) : List α :=
  let (f, _) := p.ends
  p.times.map fun t => p.gain * sin (fullTurn * ofInt t * (f / ofInt rate) + phase)

end Tone

def line (base slope offset : α) (first n : Nat) : List Int :=
  (List.range n).map fun (i : Nat) => stored (base + slope * ofInt (first + i) + offset)

def fillRamp (rate : Int) (turn : α) (buffer : Array Int) (p : Tone α) (next : Option (Tone α)) :
    Outcome (Array Int) := do
  let stop := p.start + p.length
  let rise : Nat := 128
  let slope := p.gain * (one / ofInt rise)
  let n := buffer.size
  let buffer ← p.write 0 buffer (p.plainValues rate p.phase)
  let buffer ← match next with
    | none => pure buffer
    | some q => do
      let b ← assign buffer (slots n 0 stop (stop + rise)) (line (ofInt 0) slope p.phase 1 rise)
      assign b (slots n 0 (stop + rise) q.start) [stored p.gain]
  let buffer ← p.write 1 buffer (p.plainValues rate (p.phase + turn))
  match next with
  | none => return buffer
  | some q =>
    let b ← assign buffer (slots n 1 stop (stop + rise)) (line p.gain (-slope) p.phase 0 rise)
    let held ← pick b.toList (2 * (stop + rise) + 1)
    assign b (slots n 1 (stop + rise) q.start) [held]

def fillNotch (rate : Int) (turn : α) (buffer : Array Int) (p : Tone α) : Outcome (Array Int) := do
  let n := buffer.size
  let width : Nat := 96
  let middle := p.centre
  let slope := p.gain * (half / ofInt width)
  let buffer ← p.write 0 buffer (p.plainValues rate p.phase)
  let buffer ← assign buffer (slots n 0 (middle - width) middle) (line (ofInt 0) (-slope) p.phase 1 width)
  let buffer ← assign buffer (slots n 0 middle (middle + width)) (line (-p.gain * half) slope p.phase 1 width)
  let buffer ← p.write 1 buffer (p.plainValues rate (p.phase + turn))
  let buffer ← assign buffer (slots n 1 (middle - width) middle) (line p.gain (-slope) p.phase 1 width)
  assign buffer (slots n 1 middle (middle + width)) (line (p.gain * half) slope p.phase 1 width)

/-- A joined buffer on its way. The phase response of the last sweep is used again for one that has no
response of its own. -/
structure Stereo (α : Type) where
  buffer : Array Int
  turns : Option (List α) := none

structure Channels (α : Type) where
  first : List α
  second : List α

namespace Tone

def turnsAt (p : Tone α) (before : Option (List α)) : Outcome (Option (List α) × Option (List α)) := do
  if isPositive p.ends.2 then
    let response ← Response.ofTone p
    return (some response.turns, response.factors)
  else return (before, none)

def bothWith (p : Tone α) (turn : α) (values : List α → Outcome (List α)) (random : List α) : Outcome (Channels α) := do
  let first ← values ([p.phase] ++ random)
  let second ← values ([p.phase, turn] ++ random)
  return ⟨first, second⟩

def randomTurn (draws : Nat → α) (p : Tone α) : Drawing (List α) := do
  if p.isRandom then return [← randomAngle draws] else return []

/-- The samples of a tone in both channels, none if it is not filled in this way, and the phase response that is known
after it. -/
def stereoValues (rate : Int) (draws : Nat → α) (turn : α) (before : Option (List α)) (p : Tone α) :
    Drawing (Option (Channels α) × Option (List α)) := do
  match p.shape with
  | .sine | .gauss | .sinc =>
    let random ← p.randomTurn draws
    let values ← p.bothWith turn (fun phases => .ok (p.steadyValues rate phases)) random
    return (some values, before)
  | .wurst =>
    let (turns, factors) ← p.turnsAt before
    if p.isRandom then
      let random ← p.randomTurn draws
      let values ← p.bothWith turn (fun phases => .ok (p.sweepValues rate phases)) random
      return (some values, turns)
    else
      match turns with
      | none => throw .notAssigned
      | some ts =>
        let values ← p.bothWith turn (p.correctedValues rate ⟨ts, factors⟩) []
        return (some values, turns)
  | .sech =>
    let values ← p.bothWith turn (fun phases => .ok (p.sechValues rate phases)) []
    return (some values, some [ofInt 0])
  | .chirp => return (some ⟨p.chirpValues rate p.phase, p.chirpValues rate (p.phase + turn)⟩, before)
  | .blank | .ramp | .notch => return (none, before)

def writeBoth (buffer : Array Int) (p : Tone α) (values : Channels α) : Outcome (Array Int) := do
  p.write 1 (← p.write 0 buffer values.first) values.second

end Tone

def fillStereo (rate : Int) (draws : Nat → α) (turn : α) (s : Stereo α) (p : Tone α) (next : Option (Tone α)) :
    Drawing (Stereo α) := do
  let (values, turns) ← p.stereoValues rate draws turn s.turns
  match values, p.shape with
  | some values, _ => return ⟨← p.writeBoth s.buffer values, turns⟩
  | none, .ramp => return ⟨← fillRamp rate turn s.buffer p next, turns⟩
  | none, .notch => return ⟨← fillNotch rate turn s.buffer p, turns⟩
  | none, _ => return ⟨s.buffer, turns⟩

def fillAllStereo (rate : Int) (draws : Nat → α) (turn : α) : Stereo α → List (Tone α) → Drawing (Stereo α)
  | s, [] => pure s
  | s, p :: rest => do
    let s ← fillStereo rate draws turn s p rest.head?
    fillAllStereo rate draws turn s rest

def stereoBuffer (rate : Int) (draws : Nat → α) (turn : α) (size : Nat) (tones : List (Tone α)) :
    Drawing (Array Int) := do
  return (← fillAllStereo rate draws turn { buffer := silence true size } tones).buffer

end EprBench.Waveform
