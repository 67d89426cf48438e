import EprBench.Factory
import EprBench.Ladder
import EprBench.Line.Dialogue

/-! Lock-in amplifiers. -/
namespace EprBench.LockIn

open Line Value

structure Laddered where
  ladder : Ladder
  word : String
  /-- Below this the value cannot be set; no message is there for it. -/
  floor : Option (Float × String)
  /-- Above this the highest value is set. -/
  ceiling : Float × String
  ceilingCode : Int
  /-- A rehearsal lets values below the lowest one pass. -/
  floorPasses : Bool
  what : String
  reason : String
  /-- The message about another value comes before the unit is looked at. -/
  remarksEarly : Bool

structure Model where
  settings : Settings
  routes : List Route
  sensitivity : Laddered
  timeConstant : Laddered
  referenceWord : String
  references : List (String × Int)
  slopeWord : String
  frequencyMax : Float
  phaseMin : Float
  phaseMax : Float
  rehearsedPhaseMax : Float
  amplitudeMin : Float
  amplitudeMax : Float
  harmonicMax : Int
  firstOutput : Int
  frequencyText : String := "Invalid Argument"

namespace Laddered

variable (p : Laddered)

def isBeyond (words : List String) (beyond : Float → Bool) (unit : String) : Outcome Bool := do
  let x ← realOfText (← pick words 0)
  if beyond x then return (← pick words 1) == unit else return false

def isBelow (words : List String) : Outcome Bool :=
  match p.floor with
  | some (low, unit) => isBeyond words (· < low) unit
  | none => .ok false

def isAbove (words : List String) : Outcome Bool := isBeyond words (· > p.ceiling.1) p.ceiling.2

def remarkNearest (what : String) : Act Link Unit :=
  remark s!"Desired {what} cannot be set, the nearest available value is used"

def sendCode (code : Int) : Act Link Unit := tell s!"{p.word} {Decimal.intText code}"

def sendRung (rung : Rung) : Act Link Unit := do
  match p.ladder.code? rung with
  | some code => p.sendCode code
  | none => refuse s!"Invalid {p.what} value (too high/too low)" p.reason

def takeNearest (words : List String) : Act Link Unit := do
  let wanted ← intOfText (← pick words 0)
  let step := p.ladder.step wanted
  -- The unit of a full thousand is looked at before anything is said.
  let carried ← if step == 1000 then do pure (some (p.ladder.carry step (← pick words 1))) else pure none
  let number := (carried.map (·.1)).getD step
  if p.remarksEarly && number != wanted then remarkNearest p.what
  let rung ← match carried with
    | some r => pure r
    | none => do pure (step, ← pick words 1)
  if !p.remarksEarly && number != wanted then remarkNearest p.what
  p.sendRung rung

def take (v : Value) : Act Link Unit := do
  let words ← v.pieces ' '
  let below ← p.isBelow words
  if ← isLive then
    if below then throw .noName
    else if ← p.isAbove words then
      remarkNearest "sensitivity"
      p.sendCode p.ceilingCode
    else p.takeNearest words
  else if !(below && p.floorPasses) then
    if !(← p.isAbove words) then p.takeNearest words

def ask : Act Link Value := do return p.ladder.nameOfCode (← askInt s!"{p.word}?")

end Laddered

namespace Model

variable (m : Model)

def takeFrequency (v : Value) : Act Link Unit := do
  let x ← v.toReal
  if !(x ≥ 0.001 && x ≤ m.frequencyMax) then refuse "Incorrect frequency" "Incorrect frequency is reached"
  tell (withReal "FREQ " x)

def takePhase (v : Value) : Act Link Unit := do
  let x ← v.toReal
  let top := if ← isLive then m.phaseMax else m.rehearsedPhaseMax
  if !(x ≥ m.phaseMin && x ≤ top) then refuse "Incorrect phase" "Incorrect phase is reached"
  tell (withReal "PHAS " x)

def takeAmplitude (v : Value) : Act Link Unit := do
  let x ← v.toReal
  if !(x ≤ m.amplitudeMax && x ≥ m.amplitudeMin) then
    tell (withReal "SLVL " m.amplitudeMin)
    refuse "Invalid Argument" "Incorrect amplitude is reached"
  tell (withReal "SLVL " x)

def takeHarmonic (v : Value) : Act Link Unit := do
  if ← isLive then
    let n ← v.toInt
    if n ≤ m.harmonicMax && n ≥ 1 then send (.text s!"HARM {Decimal.intText n}")
    else
      send "HARM 1"
      Bench.stop "Invalid Argument"
  else
    let x ← v.toReal
    ensure (x ≤ Decimal.ofInt m.harmonicMax && x ≥ 1) "Incorrect harmonic is reached"

def choice (name word : String) (table : List (String × Int)) (rehearsal : Value) (text reason : String) : Command Link :=
  lenient name (return nameOf table (← askInt s!"{word}?")) rehearsal (fun v => do
    match table.lookup v.display with
    | some n => tell s!"{word} {Decimal.intText n}"
    | none => refuse text reason) "Invalid argumnet"

/-! ### Signals -/

def askOutput (n : Int) : Act Link Value := do
  return .float (← askReal s!"OUTP? {Decimal.intText (m.firstOutput + n - 1)}")

def snapshot (count : Nat) : Act Link Value := do
  let outputs := (List.range count).map fun (i : Nat) => Decimal.intText (m.firstOutput + i)
  let told ← query (.text ("SNAP? " ++ ",".intercalate outputs))
  let words ← told.pieces ','
  let xs ← liftM (words.mapM realOfText)
  let picked ← liftM ((List.range count).mapM fun (i : Nat) => pick xs i)
  return .tuple (picked.map .float)

def countsUp (n : Int) : List Value → Outcome Bool
  | [] => .ok true
  | v :: rest => do if (← v.toInt) == n then countsUp (n + 1) rest else return false

def signal (vs : List Value) : Act Link Value := do
  let rehearsed : Value := .float 0.001
  match vs with
  | [] => Line.answer (m.askOutput 1) rehearsed
  | [v] =>
    let n ← v.toInt
    if n ≥ 1 && n ≤ 4 then Line.answer (m.askOutput n) rehearsed
    else if ← isLive then return .nothing
    else throw (.refused "Invalid channel is given")
  | vs =>
    if vs.length > 3 then return .nothing
    else if ← countsUp 1 vs then Line.answer (m.snapshot vs.length) (.tuple (vs.map fun _ => rehearsed))
    else return .nothing

def commands : List (Command Link) := [
  identity "lock_in_name",
  lenient "lock_in_ref_frequency" (return .float (← askReal "FREQ?")) 10000 m.takeFrequency m.frequencyText,
  lenient "lock_in_phase" (return .float (← askReal "PHAS?")) 10 m.takePhase "Invalid Argument",
  lenient "lock_in_time_constant" m.timeConstant.ask "10 ms" m.timeConstant.take "Invalid Argument",
  lenient "lock_in_ref_amplitude" (return .float (← askReal "SLVL?")) (.float 0.3) m.takeAmplitude "Invalid Argument",
  .variadic "lock_in_get_data" m.signal,
  lenient "lock_in_sensitivity" m.sensitivity.ask "100 mV" m.sensitivity.take "Invalid Argument",
  choice "lock_in_ref_mode" m.referenceWord m.references "Internal" "Invalid mode" "Incorrect ref mode is used",
  choice "lock_in_ref_slope" m.slopeWord [("Sine", 0), ("PosTTL", 1), ("NegTTL", 2)] "Sine" "Invalid mode"
    "Incorrect ref slope is used",
  choice "lock_in_sync_filter" "SYNC" [("Off", 0), ("On", 1)] "On" "Invalid argument" "Incorrect sync filter parameter",
  choice "lock_in_lp_filter" "OFSL" [("6 dB", 0), ("12 dB", 1), ("18 dB", 2), ("24 dB", 3)] "6 dB" "Invalid mode"
    "Incorrect low pass filter is used",
  lenient "lock_in_harmonic" (return .int (← askInt "HARM?")) 1 m.takeHarmonic "Invalid Argument",
  rawCommand "lock_in_command",
  rawQuestion "lock_in_query"] ++ lineCommands

def instrument : Instrument where
  State := Link
  view := linkView
  start := do
    let settings ← Bench.adjusted m.settings
    let line ← parameters settings
    let _ ← specific settings
    connect { mode := (← get).mode, line } m.routes
  commands := m.commands

end Model

/-! ### The instruments -/

def sensitivitySteps : List Int := [1, 2, 5, 10, 20, 50, 100, 200, 500, 1000]
def sensitivityUnits : List (String × String) := [("nV", "uV"), ("uV", "mV"), ("mV", "V")]
def sensitivityRungs : List Rung := Ladder.rungs sensitivitySteps ["nV", "uV", "mV"] ++ [(1, "V")]

def timeSteps : List Int := [1, 3, 10, 30, 100, 300, 1000]
def timeUnitsUp : List (String × String) := [("us", "ms"), ("ms", "s"), ("s", "ks")]
def timeRungs : List Rung :=
  Ladder.rungs timeSteps ["us", "ms", "s"] ++ [(1, "ks"), (3, "ks"), (10, "ks"), (30, "ks")]

def analog (settings : Settings) : Model where
  settings := settings
  routes := [.gpib (send "*CLS"), .serial (send "*CLS")]
  sensitivity := {
    ladder := ⟨sensitivitySteps, sensitivityUnits, Ladder.numbered (sensitivityRungs.drop 1) 0 1⟩
    word := "SENS"
    floor := some (2, "nV")
    ceiling := (1, "V")
    ceilingCode := 26
    floorPasses := true
    what := "sensitivity"
    reason := "Incorrect sensitivity is used"
    remarksEarly := false }
  timeConstant := {
    ladder := ⟨timeSteps, timeUnitsUp, Ladder.numbered (timeRungs.drop 2) 0 1⟩
    word := "OFLT"
    floor := some (10, "us")
    ceiling := (30, "ks")
    ceilingCode := 19
    floorPasses := false
    what := "time constant"
    reason := "Incorrect time constant is used"
    remarksEarly := true }
  referenceWord := "FMOD"
  references := [("Internal", 1), ("External", 0)]
  slopeWord := "RSLP"
  frequencyMax := 102000
  phaseMin := -360
  phaseMax := 729
  rehearsedPhaseMax := 719
  amplitudeMin := 0.004
  amplitudeMax := 5
  harmonicMax := 19999
  firstOutput := 1

def sr810 : Model := analog Factory.sr810
def sr830 : Model := analog Factory.sr830
def sr850 : Model :=
  { analog Factory.sr850 with references := [("Internal", 0), ("External", 2)], harmonicMax := 32767, phaseMax := 719 }

def greet (read : Value → Outcome Int) : Act Link Unit := do
  send "*CLS"
  selfTest read

def digital (settings : Settings) (frequencyMax : Float) (frequencyText : String) : Model where
  settings := settings
  routes := [.gpib (greet fun v => do truncated (← v.toReal)), .serial (greet toInt), .ethernet (greet toInt)]
  sensitivity := {
    ladder := ⟨sensitivitySteps, sensitivityUnits, Ladder.numbered sensitivityRungs 27 (-1)⟩
    word := "SCAL"
    floor := none
    ceiling := (1, "V")
    ceilingCode := 0
    floorPasses := true
    what := "sensitivity"
    reason := "Incorrect sensitivity is used"
    remarksEarly := false }
  timeConstant := {
    ladder := ⟨timeSteps, timeUnitsUp, Ladder.numbered timeRungs 0 1⟩
    word := "OFLT"
    floor := none
    ceiling := (30, "ks")
    ceilingCode := 21
    floorPasses := false
    what := "time constant"
    reason := "Incorrect time constant is used"
    remarksEarly := true }
  referenceWord := "RSRC"
  references := [("Internal", 0), ("External", 1), ("Dual", 2), ("Chop", 3)]
  slopeWord := "RTRG"
  frequencyMax := frequencyMax
  phaseMin := -360000
  phaseMax := 360000
  rehearsedPhaseMax := 360000
  amplitudeMin := 0.000000001
  amplitudeMax := 2
  harmonicMax := 99
  firstOutput := 0
  frequencyText := frequencyText

def sr860 : Model := digital Factory.sr860 500000 "Invalid argument"
def sr865 : Model := digital Factory.sr865 4000000 "Invalid Argument"

end EprBench.LockIn
