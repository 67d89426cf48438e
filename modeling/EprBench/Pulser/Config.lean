import EprBench.Factory
import EprBench.Line.Parameters

/-! Settings of the pulse programmer. Times are in nanoseconds or in ticks of the clock, as said. -/
namespace EprBench.Pulser

structure Config where
  channels : List (String × Nat)
  clock : Float
  /-- Nanoseconds in a tick. -/
  timebase : Int
  repetitionRate : String
  /-- "True" adds protection pulses by itself, "False" does not. -/
  autoDefense : String
  /-- In nanoseconds. -/
  maxLength : Int
  /-- In nanoseconds. -/
  minLength : Int
  /-- In ticks. -/
  minimalDistance : Int
  /-- Ticks by which the whole sequence is moved. -/
  constantShift : Int
  /-- Ticks from switching on the amplifier to the pulse. -/
  switchDelay : Int
  /-- Ticks from the end of the pulse to switching off the amplifier. -/
  ampDelay : Int
  /-- Ticks from the end of the pulse to opening the receiver. -/
  protectDelay : Int
  /-- Nanoseconds from setting the phase to the pulse. -/
  switchPhaseDelay : Int
  /-- Nanoseconds from the end of the pulse to resetting the phase. -/
  phaseDelay : Int
  /-- Nanoseconds from the start of a generator window to its pulse. -/
  windowLead : Int
  /-- Nanoseconds from the end of the pulse to the end of its generator window. -/
  windowTail : Int
  /-- Ticks from the end of a generator pulse to opening the receiver. -/
  protectWindowDelay : Int
  deriving DecidableEq

/-- Two edges nearer than this many ticks are brought together. -/
def overlap : Int := 5

/-- Phase pulses must be this many ticks apart. -/
def phaseDistance : Int := 5

/-- Protection pulses nearer than this many ticks are joined. -/
def protectionDistance : Int := 6

def leadIn : Int := 25

def spareChannels : List (String × Nat) :=
  (List.range 13).map fun i => ("CH" ++ Decimal.natText (i + 9), i + 9)

def tableOf (entries : List (String × Nat)) : List (String × Nat) :=
  entries.foldl (fun t e =>
    if t.any (·.1 == e.1) then t.map fun o => if o.1 == e.1 then e else o else t ++ [e]) []

namespace Config

def ticks (es : Entries) (timebase : Int) (key : String) : Outcome Int := do
  let x ← Line.realSetting es key
  Value.truncated (x / Decimal.ofInt timebase)

def ofEntries (es : Entries) : Outcome Config := do
  let names ← (List.range 9).mapM fun i => Line.setting es ("ch" ++ Decimal.natText i)
  let clock ← Line.realSetting es "clock"
  let timebase ← Line.wholeSetting es "timebase"
  let repetitionRate ← Line.setting es "default_rep_rate"
  let autoDefense ← Line.setting es "auto_defense"
  let maxLength ← Line.wholeSetting es "max_pulse_length"
  let minLength ← Line.wholeSetting es "min_pulse_length"
  let distance ← Line.realSetting es "minimal_distance"
  if timebase = 0 then throw .divisionByZero
  return {
    channels := tableOf (names.zip (List.range 9) ++ spareChannels)
    clock, timebase, repetitionRate, autoDefense, maxLength, minLength
    minimalDistance := ← Value.truncated (distance / Decimal.ofInt timebase)
    constantShift := ← Value.truncated (250 / Decimal.ofInt timebase)
    switchDelay := ← ticks es timebase "switch_delay"
    ampDelay := ← ticks es timebase "amp_delay"
    protectDelay := ← ticks es timebase "protect_delay"
    switchPhaseDelay := ← Line.wholeSetting es "switch_phase_delay"
    phaseDelay := ← Line.wholeSetting es "phase_delay"
    windowLead := ← Line.wholeSetting es "rect_awg_switch_delay"
    windowTail := ← Line.wholeSetting es "rect_awg_delay"
    protectWindowDelay := ← ticks es timebase "protect_awg_delay" }

def channel (c : Config) (name : String) : Outcome Nat :=
  match c.channels.lookup name with
  | some n => .ok n
  | none => .error .noKey

def bit (c : Config) (name : String) : Outcome Int := return twoTo (← c.channel name)

def windowLeadTicks (c : Config) : Int := c.windowLead.tdiv c.timebase

def windowTailTicks (c : Config) : Int := c.windowTail.tdiv c.timebase

end Config
end EprBench.Pulser
