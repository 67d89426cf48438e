import EprBench.Line.Parameters
import EprBench.Value.Elementwise

/-! Generator pulses as a script declares them. Times and frequencies are texts such as "16 ns" and "200 MHz". -/
namespace EprBench.Waveform

open Value

structure Limits where
  /-- In nanoseconds. -/
  maxLength : Int
  /-- In nanoseconds. -/
  minLength : Int
  /-- In megahertz. -/
  maxFrequency : Int
  /-- In megahertz. -/
  minFrequency : Int
  /-- Radians by which the second channel is ahead when it is filled from the first. -/
  secondPhase : Float

def Limits.ofEntries (es : Entries) : Outcome Limits := do
  return {
    maxLength := ← Line.wholeSetting es "max_pulse_length"
    minLength := ← Line.wholeSetting es "min_pulse_length"
    maxFrequency := ← Line.wholeSetting es "max_freq"
    minFrequency := ← Line.wholeSetting es "min_freq"
    secondPhase := ← Line.realSetting es "ch1_phase_shift" }

structure Pulse where
  name : Value
  channel : Value
  function : Value
  /-- One frequency, or the centre and the width of a sweep. -/
  frequency : Value
  phase : Value
  /-- Added to the phase, once per shift. -/
  deltaPhase : Value
  length : Value
  sigma : Value
  /-- Added to length and width, once per increment. -/
  lengthIncrement : Value
  start : Value
  /-- Added to the start, once per shift. -/
  deltaStart : Value
  /-- The amplitude is divided by it. -/
  attenuation : Value
  phases : Value
  steepness : Value
  truncation : Value

def Pulse.table (p : Pulse) : Value :=
  .dict [("name", p.name), ("channel", p.channel), ("function", p.function), ("frequency", p.frequency),
    ("phase", p.phase), ("delta_phase", p.deltaPhase), ("length", p.length), ("sigma", p.sigma),
    ("length_increment", p.lengthIncrement), ("start", p.start), ("delta_start", p.deltaStart),
    ("amp", p.attenuation), ("phase_list", p.phases), ("n", p.steepness), ("b", p.truncation)]

def unitLengths : List (String × Int) := [("ms", 1000000), ("us", 1000), ("ns", 1)]

/-! ### Checks of a rehearsal -/

def nanoseconds (units : String) (v : Value) : Outcome Float := do
  let words ← v.pieces ' '
  let unit ← pick words 1
  match unitLengths.lookup unit with
  | some k => return Decimal.ofInt k * (← realOfText (← pick words 0))
  | none => throw (.refused s!"Incorrect time dimension ({units})")

def isEven (x : Float) : Bool := Decimal.flooredRemainder x 2 == 0

def units : String := "ms, us, ns"

def checkSpan (c : Limits) (what : String) (v : Value) : Outcome Float := do
  let x ← nanoseconds units v
  ensure (x ≥ Decimal.ofInt c.minLength)
    s!"{what} is shorter than minimum available length ({Decimal.intText c.minLength} ns)"
  ensure (x < Decimal.ofInt c.maxLength)
    s!"{what} is longer than maximum available length ({Decimal.intText c.maxLength} ns)"
  return x

def checkIncrement (c : Limits) (v : Value) : Outcome Unit := do
  let x ← nanoseconds units v
  ensure (x ≥ 0 && x < Decimal.ofInt c.maxLength)
    "Length and sigma increment is longer than maximum available length or negative"

def checkPlace (what : String) (v : Value) : Outcome Unit := do
  let x ← nanoseconds units v
  ensure (x ≥ 0) s!"{what} should be a positive number"
  ensure (isEven x) s!"{what} should be divisible by 2"

def checkNewDeltaStart (v : Value) : Outcome Unit := do
  let x ← nanoseconds "s, ms, us, ns" v
  ensure (isEven x) "Pulse delta start should be divisible by 2"
  ensure (x ≥ 0) "Pulse delta start is a negative number"

def frequencyWords (v : Value) : Outcome (String × Float) := do
  let words ← v.pieces ' '
  let unit ← pick words 1
  return (unit, ← realOfText (← pick words 0))

def checkFrequencies (c : Limits) (fs : List (String × Float)) : Outcome Unit := do
  ensure (fs.all (·.1 == "MHz")) "Incorrect frequency dimension. Only MHz is possible"
  ensure (fs.all (·.2 ≥ Decimal.ofInt c.minFrequency))
    s!"Frequency is lower than minimum available ({Decimal.intText c.minFrequency} MHz)"
  ensure (fs.all (·.2 < Decimal.ofInt c.maxFrequency))
    s!"Frequency is longer than minimum available ({Decimal.intText c.maxFrequency} MHz)"

def checkFrequency (c : Limits) (v : Value) : Outcome Unit := do checkFrequencies c [← frequencyWords v]

def checkSweep (c : Limits) (v : Value) : Outcome Unit := do
  let first ← (← v.nth 0).pieces ' '
  let second ← (← v.nth 1).pieces ' '
  let unit1 ← pick first 1
  let unit2 ← pick second 1
  let x1 ← realOfText (← pick first 0)
  let x2 ← realOfText (← pick second 0)
  checkFrequencies c [(unit1, x1), (unit2, x2)]

def sweepNames : List String := ["WURST", "TEST2", "SECH/TANH"]

def functionNames : List String :=
  ["SINE", "GAUSS", "SINC", "BLANK", "WURST", "SECH/TANH", "TEST", "TEST2", "TEST3"]

def Pulse.check (c : Limits) (p : Pulse) : Outcome Unit := do
  let function := p.function.display
  ensure (functionNames.contains function)
    "Incorrect pulse type. Only SINE, GAUSS, SINC, BLANK, WURST, and SECH/TANH pulses are available"
  if sweepNames.contains function then
    let n ← p.frequency.size
    ensure (n == 2)
      "For WURST and SECH/TANH pulses frequency should be a tuple: frequency = (\"Center MHz\", \"Sweep MHz\")"
    checkSweep c p.frequency
  else checkFrequency c p.frequency
  let length ← checkSpan c "Pulse" p.length
  let sigma ← checkSpan c "Sigma" p.sigma
  ensure (length ≥ sigma) "Pulse length should be longer or equal to sigma"
  checkIncrement c p.lengthIncrement
  checkPlace "Pulse start" p.start
  checkPlace "Pulse delta start" p.deltaStart
  ensure ((← p.attenuation.toReal) ≥ 1) "Amplification coefficient should be more or equal to 1"
  ensure ((← p.truncation.toReal) > 0) "Parameter b should be more than 0"

/-! ### Changing a pulse -/

/-- Times that were read last; an unknown unit leaves them as they are. -/
structure Seen where
  step : Option Int := none
  place : Option Int := none
  sigma : Option Int := none

structure Progress where
  pulse : Pulse
  seen : Seen := {}

abbrev Change := ExceptT Fault (StateM Progress)

instance : MonadLift Outcome Change := ⟨fun x => ExceptT.mk (pure x)⟩

def timeOf? (whole : String → Outcome Int) (v : Value) : Outcome (Option Int) := do
  let words ← v.pieces ' '
  let unit ← pick words 1
  match unitLengths.lookup unit with
  | some k => return some ((← whole (← pick words 0)) * k)
  | none => return none

def required (x : Option Int) : Outcome Int :=
  match x with
  | some n => .ok n
  | none => .error .notAssigned

def inNanoseconds (n : Int) : Value := .text (Decimal.intText n ++ " ns")

def shiftStart : Change Unit := do
  let p := (← get).pulse
  let lead ← (← p.deltaStart.slice none (some (-3))).toInt
  if lead = 0 then return
  let step ← timeOf? intOfText p.deltaStart
  modify fun s => { s with seen.step := step.orElse fun _ => s.seen.step }
  let place ← timeOf? intOfText p.start
  modify fun s => { s with seen.place := place.orElse fun _ => s.seen.place }
  let seen := (← get).seen
  let place ← required seen.place
  let step ← required seen.step
  modify fun s => { s with pulse.start := inNanoseconds (place + step) }

def shiftPhase : Change Unit := do
  let p := (← get).pulse
  if (← p.deltaPhase.toReal) == 0 then return
  let phase ← p.phase.toReal
  let step ← p.deltaPhase.toReal
  modify fun s => { s with pulse.phase := .float (phase + step) }

def wholePart (s : String) : Outcome Int := do truncated (← realOfText s)

def grownLength (length sigma step : Int) : Float :=
  Decimal.ofInt length + Decimal.ofInt length / Decimal.ofInt sigma * Decimal.ofInt step

/-- Makes a pulse longer by one step. A steady pulse gets longer by the step; an envelope gets wider by
the step and keeps its form. `byName` is for a pulse picked by its name. -/
def lengthen (c : Limits) (mode : Mode) (byName : Bool) : Change Unit := do
  let p := (← get).pulse
  let lead ← (← p.lengthIncrement.slice none (some (-3))).toInt
  if lead = 0 then return
  let step ← timeOf? wholePart p.lengthIncrement
  check step (if byName then "ns, us, ms, s" else "ns, us, ms")
  modify fun s => { s with seen.step := step.orElse fun _ => s.seen.step }
  let length ← timeOf? wholePart p.length
  check length (if byName then "ns, us, ms, s" else "ns, us, ms")
  modify fun s => { s with seen.place := length.orElse fun _ => s.seen.place }
  let sigma ← timeOf? wholePart p.sigma
  check sigma "ns, us, ms"
  modify fun s => { s with seen.sigma := sigma.orElse fun _ => s.seen.sigma }
  let seen := (← get).seen
  if mode == .rehearsal then
    let length ← required seen.place
    let sigma ← required seen.sigma
    let step ← required seen.step
    if sigma = 0 then throw .divisionByZero
    ensure (grownLength length sigma step ≤ Decimal.ofInt c.maxLength)
      s!"Exceeded maximum pulse length{Decimal.intText c.maxLength}when increment the pulse"
  if ← (p.function.equals "SINE" : Outcome Bool) then
    let length := (← required seen.place) + (← required seen.step)
    modify fun s => { s with pulse.length := inNanoseconds length }
    widen seen
  else if ← (p.function.equals "GAUSS" : Outcome Bool) then stretch seen
  else if byName then throw .notAssigned
  else if ← (p.function.equals "SINC" : Outcome Bool) then stretch seen
where
  check (x : Option Int) (units : String) : Outcome Unit :=
    ensure (mode == .live || x.isSome) s!"Incorrect time dimension ({units})"
  widen (seen : Seen) : Change Unit := do
    let sigma := (← required seen.sigma) + (← required seen.step)
    modify fun s => { s with pulse.sigma := inNanoseconds sigma }
  stretch (seen : Seen) : Change Unit := do
    let length ← required seen.place
    let sigma ← required seen.sigma
    if sigma = 0 then throw .divisionByZero
    let grown := grownLength length sigma (← required seen.step)
    modify fun s => { s with pulse.length := .text (Decimal.floatText grown ++ " ns") }
    widen seen

def changeAll (change : Change Unit) : Seen → List Pulse → List Pulse × Option Fault
  | _, [] => ([], none)
  | seen, p :: ps =>
    match change.run.run { pulse := p, seen := seen } with
    | (.error f, s) => (s.pulse :: ps, some f)
    | (.ok _, s) =>
      let (ps', f) := changeAll change s.seen ps
      (s.pulse :: ps', f)

/-! ### Phases -/

def phaseAngles : List (String × Float) :=
  [("+x", 0), ("-x", 3.141592653589793), ("+y", 3.141592653589793 / 2), ("-y", 3 * 3.141592653589793 / 2)]

def turned (declared : Value) (angle : Float) : Outcome Value :=
  if angle == 0 then .ok declared else declared.plus (.float angle)

/-- The phase of a pulse in step `index` of its cycle; none when it has no cycle or the step is unknown.
A rehearsal refuses unknown steps. -/
def cyclePhase (mode : Mode) (index : Nat) (p : Pulse) (declared : Value) : Outcome (Option Value) := do
  if (← p.phases.items).isEmpty then return none
  match ← (← p.phases.nth index).choice phaseAngles with
  | some angle => return some (← turned declared angle)
  | none =>
    ensure (mode == .live) "Incorrect phase name (+x, -x, +y, -y)"
    return none

end EprBench.Waveform
