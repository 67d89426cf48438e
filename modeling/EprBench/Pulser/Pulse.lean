import EprBench.Pulser.Config
import EprBench.Quantity
import EprBench.Value.Elementwise

/-! Pulses as a script declares them. Times are texts such as "100 ns"; they are read where they are
needed, because a live session keeps whatever it was given. -/
namespace EprBench.Pulser

open Value

structure Pulse where
  name : Value
  channel : Value
  start : Value
  length : Value
  deltaStart : Value
  lengthIncrement : Value
  phases : Value

def Pulse.table (p : Pulse) : Value :=
  .dict [("name", p.name), ("channel", p.channel), ("start", p.start), ("length", p.length),
    ("delta_start", p.deltaStart), ("length_increment", p.lengthIncrement), ("phase_list", p.phases)]

def unitLengths : List (String × Int) := [("s", 1000000000), ("ms", 1000000), ("us", 1000), ("ns", 1)]

/-- Numbers as which times are read. A session uses doubles. -/
class Timescale (α : Type) extends Quantity α where
  ofText : String → Outcome α
  isEven : α → Bool

instance : Timescale Float where
  ofText := realOfText
  isEven x := Decimal.flooredRemainder x 2 == 0

def nanoseconds (α : Type) [Timescale α] (v : Value) : Outcome α := do
  let words ← v.pieces ' '
  let unit ← pick words 1
  match unitLengths.lookup unit with
  | some k => return Quantity.ofInt k * (← Timescale.ofText (← pick words 0))
  | none => throw (.refused "Incorrect time dimension (s, ms, us, ns)")

def moved (mode : Mode) (time delay : Value) : Outcome String := do
  let words ← time.pieces ' '
  let unit ← pick words 1
  match unitLengths.lookup unit with
  | some k =>
    let n ← intOfText (← pick words 0)
    let total ← (Value.int (n * k)).plus delay
    return Decimal.intText (← total.toInt) ++ " ns"
  | none =>
    match mode with
    | .live => throw .notAssigned
    | .rehearsal => throw (.refused "Incorrect time dimension (ns, us, ms, s)")

/-! ### Declaring a pulse in a rehearsal -/

section Times

open Quantity

variable (α : Type) [Timescale α]

def checkLength (c : Config) (v : Value) : Outcome Unit := do
  let x ← nanoseconds α v
  ensure (Timescale.isEven x) "Pulse length should be divisible by 2"
  ensure (le (ofInt c.minLength) x)
    s!"Pulse is shorter than minimum available length ({Decimal.intText c.minLength} ns)"
  ensure (lt x (ofInt c.maxLength))
    s!"Pulse is longer than maximum available length ({Decimal.intText c.maxLength} ns)"

def checkStart (v : Value) : Outcome Unit := do
  let x ← nanoseconds α v
  ensure (Timescale.isEven x) "Pulse start should be divisible by 2"
  ensure (le zero x) "Pulse start is a negative number"

def checkDeltaStart (v : Value) : Outcome Unit := do
  let x ← nanoseconds α v
  ensure (Timescale.isEven x) "Pulse delta start should be divisible by 2"
  ensure (le zero x) "Pulse delta start is a negative number"

def checkLengthIncrement (c : Config) (v : Value) : Outcome Unit := do
  let x ← nanoseconds α v
  ensure (Timescale.isEven x) "Pulse length increment should be divisible by 2"
  ensure (le zero x && lt x (ofInt c.maxLength))
    "Pulse length increment is longer than maximum available length or negative"

end Times

def checkChannel (c : Config) (v : Value) : Outcome Unit := do
  match ← v.find c.channels with
  | none => throw (.refused "Incorrect channel name")
  | some _ =>
    match c.autoDefense with
    | "False" => return
    | "True" =>
      ensure (!(v.isText "AMP_ON" || v.isText "LNA_PROTECT"))
        "In auto_defense mode AMP_ON and LNA_PROTECT pulses are set automatically"
    | _ => throw (.refused "Incorrect auto_defense setting")

/-! ### Moving pulses -/

/-- The last step and place that were read; a live session uses them again for an unknown unit. -/
structure Seen where
  step : Option Int := none
  place : Option Int := none

structure Move where
  step : Pulse → Value
  place : Pulse → Value
  put : Pulse → String → Pulse
  whole : String → Outcome Int
  limit : Option Int

def Move.shift : Move where
  step := (·.deltaStart)
  place := (·.start)
  put p t := { p with start := .text t }
  whole := intOfText
  limit := none

def Move.growth (α : Type) [Timescale α] (c : Config) : Move where
  step := (·.lengthIncrement)
  place := (·.length)
  put p t := { p with length := .text t }
  whole s := do Quantity.truncated (← (Timescale.ofText s : Outcome α))
  limit := some c.maxLength

def Move.increment (c : Config) : Move := .growth Float c

def Move.read (m : Move) (mode : Mode) (before : Option Int) (v : Value) : Outcome (Option Int) := do
  let words ← v.pieces ' '
  let unit ← pick words 1
  match unitLengths.lookup unit with
  | some k => return some ((← m.whole (← pick words 0)) * k)
  | none =>
    match mode with
    | .live => return before
    | .rehearsal => throw (.refused "Incorrect time dimension (ns, us, ms, s)")

def Move.apply (m : Move) (mode : Mode) (seen : Seen) (p : Pulse) : Outcome (Pulse × Seen) := do
  let lead ← (← (m.step p).slice none (some (-3))).toInt
  if lead = 0 then return (p, seen)
  let step ← m.read mode seen.step (m.step p)
  let place ← m.read mode seen.place (m.place p)
  match place, step with
  | some a, some d =>
    if mode == .rehearsal && m.limit.any (a + d > ·) then
      throw (.refused "Exceeded maximum pulse length (1900 ns) when increment the pulse")
    return (m.put p (Decimal.intText (a + d) ++ " ns"), ⟨step, place⟩)
  | _, _ => throw .notAssigned

/-- Moves pulses one after the other. When one cannot be moved, the ones before it stay moved. -/
def Move.all (m : Move) (mode : Mode) : Seen → List Pulse → List Pulse × Option Fault
  | _, [] => ([], none)
  | seen, p :: ps =>
    match m.apply mode seen p with
    | .error f => (p :: ps, some f)
    | .ok (p', seen') =>
      let (ps', f) := m.all mode seen' ps
      (p' :: ps', f)

/-! ### Phases -/

def Pulse.isPhase (p : Pulse) : Bool := p.channel.isText "-X" || p.channel.isText "+Y"

def dropPhases : Nat → List Pulse → List Pulse
  | 0, ps => ps
  | n + 1, ps => dropPhases n (ps.eraseP Pulse.isPhase)

/-- The channels that set each phase. Both together make the phase -y. -/
def phaseChannels : List (String × List String) :=
  [("+x", []), ("-x", ["-X"]), ("+y", ["+Y"]), ("-y", ["-X", "+Y"])]

def phasePulse (name start length channel : String) : Pulse :=
  ⟨.text name, .text channel, .text start, .text length, "0 ns", "0 ns", .list []⟩

/-- The pulses that set the phase of `p` in step `index` of the phase cycle; none when there is no
phase to set. They start before the pulse and end after it. -/
def phasePulses (c : Config) (mode : Mode) (index : Nat) (p : Pulse) : Outcome (Option (List Pulse)) := do
  let phases ← p.phases.items
  if phases.isEmpty then return none
  let phase ← p.phases.nth index
  match ← phase.choice (phaseChannels.map fun e => (e.1, e)), p.name with
  | none, _ =>
    ensure (mode == .live) "Incorrect phase name (+x, -x, +y, -y)"
    return none
  | some (_, []), _ => return some []
  | some (word, channels), .text name =>
    let start ← moved mode p.start (.int (-c.switchPhaseDelay))
    let length ← moved mode p.length (.int (c.phaseDelay + c.switchPhaseDelay))
    return some (channels.map (phasePulse (name ++ "_ph_seq" ++ word) start length))
  | _, _ => throw .wrongType

structure PhaseStep where
  added : List Pulse := []
  touched : Bool := false
  fault : Option Fault := none

def PhaseStep.take (done : PhaseStep) : Option (List Pulse) → PhaseStep
  | none => done
  | some qs => { done with added := done.added ++ qs, touched := true }

def PhaseStep.add (c : Config) (mode : Mode) (index : Nat) (done : PhaseStep) (p : Pulse) : PhaseStep :=
  match done.fault with
  | some _ => done
  | none =>
    match phasePulses c mode index p with
    | .error f => { done with fault := some f }
    | .ok qs => done.take qs

def phaseStep (c : Config) (mode : Mode) (index : Nat) (ps : List Pulse) : PhaseStep :=
  ps.foldl (PhaseStep.add c mode index) {}

end EprBench.Pulser
