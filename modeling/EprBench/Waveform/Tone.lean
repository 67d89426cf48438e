import EprBench.Waveform.Pulse
import EprBench.Waveform.Scalar

/-! Tones: pulses with all their properties in samples, radians and megahertz. -/
namespace EprBench.Waveform

open Value

/-- Numbers as which times are read. A session uses doubles. -/
class Clock (τ : Type) extends Quantity τ where
  ofValue : Value → Outcome τ

instance : Clock Float := ⟨toReal⟩

inductive Shape where
  | sine
  | gauss
  | sinc
  | blank
  | wurst
  | sech
  | ramp
  | chirp
  | notch
  deriving Repr, DecidableEq

def Shape.table : List (String × Shape) :=
  functionNames.zip [.sine, .gauss, .sinc, .blank, .wurst, .sech, .ramp, .chirp, .notch]

def Shape.code (s : Shape) : Int := (Shape.table.findIdx fun e => e.2 == s : Nat)

def Shape.isSwept : Shape → Bool
  | .wurst | .sech | .chirp => true
  | _ => false

inductive Frequency (α : Type) where
  | steady (f : α)
  | swept (first last : α)

structure Tone (α : Type) where
  channel : Nat
  shape : Shape
  frequency : Frequency α
  /-- In radians. -/
  phase : α
  /-- In samples, as are width, start and step. -/
  length : Int
  sigma : α
  start : Int
  deltaStart : Int
  attenuation : α
  steepness : α
  truncation : α

namespace Tone

def cells (t : Tone Float) : Value :=
  let frequency := match t.frequency with
    | .steady f => whole f
    | .swept f g => .list [.float f, .float g]
  .list [.int t.channel, .int t.shape.code, frequency, .float t.phase, .int t.length,
    whole t.sigma, .int t.start, .int t.deltaStart, .float t.attenuation, .float t.steepness, .float t.truncation]
where
  whole (x : Float) : Value :=
    match truncated x with
    | .ok n => .int n
    | .error _ => .float x

/-- What is known from the pulses before; an unknown name or unit leaves it as it is. -/
structure Carry where
  channel : Option Nat := none
  shape : Option Shape := none
  length : Option Int := none
  sigma : Option Int := none
  start : Option Int := none
  deltaStart : Option Int := none

abbrev Conversion := ExceptT Fault (StateM Carry)

instance : MonadLift Outcome Conversion := ⟨fun x => ExceptT.mk (pure x)⟩

def unitFactors : List (String × Int) := [("ns", 1), ("us", 1000), ("ms", 1000000), ("s", 1000000000)]

def samplesOf (τ : Type) [Clock τ] (rate : Int) (time : Value) : Outcome (Option Int) := do
  match ← (← time.slice (some (-2)) none).choice unitFactors with
  | none => return none
  | some k =>
    let x : τ ← Clock.ofValue (← time.slice none (some (-3)))
    return some (← Quantity.truncated (x * Quantity.ofInt k * Quantity.ofInt rate / Quantity.ofInt 1000))

def sweepEnds (centre width : Float) : Float × Float := ((2 * centre - width) / 2, (2 * centre + width) / 2)

def withoutUnit (v : Value) : Outcome Float := do (← v.slice none (some (-3))).toReal

def frequencyOf (shape : Shape) (v : Value) : Outcome (Frequency Float) := do
  if shape.isSwept then
    let centre ← withoutUnit (← v.nth 0)
    let width ← withoutUnit (← v.nth 1)
    let (f, g) := sweepEnds centre width
    return .swept f g
  else return .steady (Decimal.ofInt (← truncated (← withoutUnit v)))

def renew {β : Type} (new old : Option β) : Option β := new.orElse fun _ => old

structure Properties where
  channel : Outcome Value
  function : Outcome Value
  length : Outcome Value
  frequency : Outcome Value
  phase : Outcome Value
  sigma : Outcome Value
  start : Outcome Value
  deltaStart : Outcome Value
  attenuation : Outcome Value
  steepness : Outcome Value
  truncation : Outcome Value

def Properties.ofPulse (p : Pulse) : Properties where
  channel := .ok p.channel
  function := .ok p.function
  length := .ok p.length
  frequency := .ok p.frequency
  phase := .ok p.phase
  sigma := .ok p.sigma
  start := .ok p.start
  deltaStart := .ok p.deltaStart
  attenuation := .ok p.attenuation
  steepness := .ok p.steepness
  truncation := .ok p.truncation

def Properties.ofTable (table : Outcome Value) : Properties :=
  let field (name : String) : Outcome Value := do (← table).field name
  { channel := field "channel"
    function := field "function"
    length := field "length"
    frequency := field "frequency"
    phase := field "phase"
    sigma := field "sigma"
    start := field "start"
    deltaStart := field "delta_start"
    attenuation := field "amp"
    steepness := field "n"
    truncation := field "b" }

def convert (τ : Type) [Clock τ] (rate : Int) (p : Properties) : Conversion (Tone Float) := do
  let channel ← (do (← p.channel).find [("CH0", 0), ("CH1", 1)] : Outcome _)
  modify fun s => { s with channel := renew channel s.channel }
  let shape ← (do (← p.function).find Shape.table : Outcome _)
  modify fun s => { s with shape := renew shape s.shape }
  let length ← (do samplesOf τ rate (← p.length) : Outcome _)
  modify fun s => { s with length := renew length s.length }
  let given ← p.frequency
  let frequency ← match (← get).shape with
    | some shape => (frequencyOf shape given : Outcome _)
    | none => throw .notAssigned
  let phase ← (do (← p.phase).toReal : Outcome _)
  let sigma ← (do samplesOf τ rate (← p.sigma) : Outcome _)
  modify fun s => { s with sigma := renew sigma s.sigma }
  let start ← (do samplesOf τ rate (← p.start) : Outcome _)
  modify fun s => { s with start := renew start s.start }
  let deltaStart ← (do samplesOf τ rate (← p.deltaStart) : Outcome _)
  modify fun s => { s with deltaStart := renew deltaStart s.deltaStart }
  let attenuation ← (do (← p.attenuation).toReal : Outcome _)
  let steepness ← (do (← p.steepness).toReal : Outcome _)
  let truncation ← (do (← p.truncation).toReal : Outcome _)
  match ← get with
  | ⟨some channel, some shape, some length, some sigma, some start, some deltaStart⟩ =>
    return {
      channel, shape, frequency, phase, length, sigma := Decimal.ofInt sigma, start, deltaStart, attenuation,
      steepness, truncation }
  | _ => throw .notAssigned

variable {α : Type}

def le (a b : Tone α) : Bool := a.channel < b.channel || (a.channel == b.channel && a.start ≤ b.start)

def ofPropertiesIn (τ : Type) [Clock τ] (rate : Int) (ps : List Properties) : Outcome (List (Tone Float)) := do
  let tones ← ((ps.mapM (convert τ rate)).run.run {}).1
  return tones.mergeSort le

def ofProperties (rate : Int) (ps : List Properties) : Outcome (List (Tone Float)) := ofPropertiesIn Float rate ps

def ofPulses (rate : Int) (ps : List Pulse) : Outcome (List (Tone Float)) :=
  ofProperties rate (ps.map .ofPulse)

def ofTables (rate : Int) (v : Value) : Outcome (List (Tone Float)) := do
  let table (i : Nat) : Outcome Value := if v.isArray then .error .outOfRange else v.nth i
  ofProperties rate ((List.range (← v.size)).map fun i => .ofTable (table i))

def groups (mode : Mode) (tones : List (Tone α)) : Outcome (List (List (Tone α))) :=
  if tones.isEmpty then
    match mode with
    | .live => .error .outOfRange
    | .rehearsal => .error (.refused "No AWG pulses are defined")
  else .ok (tones.splitBy fun a b => a.channel == b.channel)

def longest (tones : List (Tone α)) : Int := (tones.map (·.length)).foldl max ((tones.map (·.length)).headD 0)

end Tone
end EprBench.Waveform
