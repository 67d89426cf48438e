import EprBench.Pulser.Board
import EprBench.Pulser.Cycle
import EprBench.Pulser.Program
import EprBench.Script

/-! The pulse programmer. The board is loaded again only when something has changed. -/
namespace EprBench.Pulser

structure Device where
  config : Config
  mode : Mode
  flag : Option Value := none
  pulses : List Pulse := []
  declared : List Pulse := []
  names : List Value := []
  phaseLengths : List Nat := []
  rate : Value
  shifted : Bool := false
  rated : Bool := false
  incremented : Bool := false
  /-- The board plays the current sequence, unless something was moved. -/
  settled : Bool := false
  phaseIndex : Nat := 0
  windowed : Bool := false
  phasePulses : Nat := 0
  fromFile : Bool := false
  /-- Number of programs played; a rehearsal does not count them. -/
  updates : Option Int := none
  recorded : Option (List String) := none

namespace Device

def recordFile : String := "instructions.out"

def make (c : Config) (mode : Mode) : Device :=
  { config := c, mode := mode, rate := c.repetitionRate, updates := if mode == .live then some 0 else none }

def cleared (p : Device) : Device :=
  { make p.config p.mode with flag := p.flag, fromFile := p.fromFile, updates := p.updates, recorded := p.recorded }

/-! ### Declaring -/

def declare (q : Pulse) : Act Device Unit :=
  modify fun p =>
    let pulses := p.pulses ++ [q]
    { p with pulses := pulses, declared := pulses }

def notePhases (q : Pulse) : Act Device Unit := do
  let n ← (q.phases.items : Outcome _)
  modify fun p => { p with phaseLengths := p.phaseLengths ++ [n.length] }

def noteName (q : Pulse) : Act Device Unit := modify fun p => { p with names := p.names ++ [q.name] }

def takePhases (q : Pulse) : Act Device Unit := do
  if ← q.channel.equals "MW" then notePhases q
  else if ← q.channel.equals "TRIGGER" then
    let phases ← q.phases.items
    ensure phases.isEmpty "TRIGGER pulse should not have phase"

def checkKeys (names : List Value) : Outcome Unit := if names.any (!·.isKey) then .error .wrongType else .ok ()

def checkPulse (α : Type) [Timescale α] (c : Config) (q : Pulse) : Outcome Unit := do
  checkLength α c q.length
  checkStart α q.start
  checkDeltaStart α q.deltaStart
  checkLengthIncrement α c q.lengthIncrement
  checkChannel c q.channel

/-- Adds a pulse. A rehearsal checks it; what was noted before a check fails stays noted. -/
def addPulseIn (α : Type) [Timescale α] (q : Pulse) : Act Device Unit := do
  let p ← get
  match p.mode with
  | .live =>
    declare q
    noteName q
    if ← q.channel.equals "MW" then notePhases q
  | .rehearsal =>
    takePhases q
    checkKeys p.names
    ensure (!p.names.any (·.isText q.name.display)) "Two pulses have the same name. Please, rename"
    noteName q
    checkPulse α p.config q
    declare q

def addPulse (q : Pulse) : Act Device Unit := addPulseIn Float q

def checkName (name : Value) : Act Device Unit := do
  let p ← get
  if p.mode == .rehearsal then
    ensure (← name.placeAmong p.names).isSome "Pulse with the specified name is not defined"

inductive Timing where
  | start
  | deltaStart
  | lengthIncrement

namespace Timing

def property : Timing → String
  | .start => "start"
  | .deltaStart => "delta_start"
  | .lengthIncrement => "length_increment"

def check (c : Config) : Timing → Value → Outcome Unit
  | .start => checkStart Float
  | .deltaStart => checkDeltaStart Float
  | .lengthIncrement => checkLengthIncrement Float c

def put (q : Pulse) (time : String) : Timing → Pulse
  | .start => { q with start := .text time }
  | .deltaStart => { q with deltaStart := .text time }
  | .lengthIncrement => { q with lengthIncrement := .text time }

def note (p : Device) : Timing → Device
  | .start | .deltaStart => { p with shifted := true }
  | .lengthIncrement => { p with incremented := true }

end Timing

def checkTime (t : Timing) (value : Value) : Act Device Unit := do
  let p ← get
  if p.mode == .rehearsal then t.check p.config value

def redefine (t : Timing) (name value : Value) : Act Device Unit := do
  checkName name
  let p ← get
  p.pulses.zipIdx.forM fun (q, i) => do
    if ← name.equals q.name then
      checkTime t value
      modify fun p => t.note { p with pulses := p.pulses.set i (t.put q value.display) }

/-! ### Moving -/

def distinctNames (names : List Value) : List Value :=
  names.foldl (fun seen n => if seen.any (·.same n) then seen else seen ++ [n]) []

def moveAll (move : Move) (flag : Device → Device) : Act Device Unit := do
  let p ← get
  let (pulses, fault) := move.all p.mode {} p.pulses
  modify fun p => { p with pulses := pulses }
  match fault with
  | some f => throw f
  | none => modify fun p => flag { p with phaseIndex := 0 }

def moveOne (move : Move) (flag : Device → Device) (seen : Seen) (name : Value) : Act Device Seen := do
  let p ← get
  match ← name.placeAmong p.names with
  | none =>
    ensure (p.mode == .live) "There is no pulse with the specified name"
    return seen
  | some i =>
    let q ← pick p.pulses i
    let (q', seen') ← move.apply p.mode seen q
    modify fun p => flag { p with pulses := p.pulses.set i q', phaseIndex := 0 }
    return seen'

def movePulses (move : Move) (flag : Device → Device) (names : List Value) : Act Device Unit := do
  if names.isEmpty then moveAll move flag
  else
    checkKeys names
    let _ ← (distinctNames names).foldlM (moveOne move flag) {}

/-! ### Playing -/

def rateUnits : List (String × Float × Int) := [(" Hz", 1000000000, -3), ("kHz", 1000000, -4), ("MHz", 1000, -4)]

def period (rate : Value) : Outcome (Option Int) := do
  match ← (← rate.slice (some (-3)) none).choice rateUnits with
  | none => return none
  | some (k, stop) =>
    let x ← (← rate.slice none (some stop)).toReal
    if x == 0 then throw .divisionByZero
    return some (← Value.truncated (k / x))

def properties (p : Device) : List Properties := p.pulses.map .ofPulse

def sequence (p : Device) : Sequence := ⟨p.config, p.mode, p.windowed, !p.phaseLengths.isEmpty⟩

def convertPulses (pulses : List Properties) : Act Device (List Row) := do
  let p ← get
  let (rows, windowed) := rowsOf p.config p.mode p.windowed pulses
  modify fun p => { p with windowed := windowed }
  rows

def prepare (pulses : List Properties) : Act Device (List Row) := do
  let given ← convertPulses pulses
  let p ← get
  let (own, windowed) := rowsOf p.config p.mode p.windowed p.properties
  modify fun p => { p with windowed := windowed }
  p.sequence.prepared given own

def refuseLong {α : Type} : Act Device α := do
  match (← get).mode with
  | .live => Bench.stop Sequence.tooLong
  | .rehearsal => throw (.refused Sequence.tooLong)

def programFor (pulses : List Properties) (period : Int) : Act Device (List Instruction) := do
  let rows ← prepare pulses
  match ← (← get).sequence.program period rows with
  | some is => return is
  | none => refuseLong

def numbersOf : List (List Char) → List Int
  | [] => []
  | piece :: more =>
    let (negative, body) := Decimal.takeSign (piece.dropWhile Text.isBlank)
    let digits := body.takeWhile Char.isDigit
    let rest := body.drop digits.length
    match Decimal.parseInt? (String.ofList digits) with
    | none => []
    | some n => (if negative then -n else n) :: if rest.all Text.isBlank then numbersOf more else []

def triples : List Int → Option (List Instruction)
  | [] => some []
  | w :: t :: d :: rest => (triples rest).map (⟨w, t, d⟩ :: ·)
  | _ => none

def recordedProgram (p : Device) : Outcome (List Instruction) := do
  match p.recorded, p.updates with
  | some programs, some n =>
    match triples (numbersOf (Text.splitAt ',' (← pick programs n).toList)) with
    | some is => return is
    | none => throw .wrongValue
  | _, _ => throw .noMember

def currentProgram (period : Option Int) : Act Device (List Instruction) := do
  let p ← get
  if p.fromFile then p.recordedProgram
  else
    match period with
    | some t => programFor p.properties t
    | none => throw .notAssigned

def countUpdate : Act Device Unit := do
  match (← get).updates with
  | some n => modify fun p => { p with updates := some (n + 1) }
  | none => throw .noMember

def recordLine (is : List Instruction) : String :=
  ",".intercalate ((is.flatMap fun i => [i.word, i.start, i.duration]).map Decimal.intText) ++ "\n"

def settle (p : Device) : Device := { p with settled := true, shifted := false, incremented := false, rated := false }

def record (is : List Instruction) : Act Device Unit := do
  if (← get).fromFile then Bench.appendFile recordFile (recordLine is)

def rehearse (time : Int) : Act Device Unit := do
  let p ← get
  let is ← programFor p.properties time
  record is
  ensure (!is.any (·.duration < 10))
    "Incorrect instruction are found. Probably Trigger pulses are overlap with other"
  modify settle

/-- Plays the current program over and over, from its first instruction on or, when `toZero`, from number zero on. -/
def play (toZero : Bool) (settle : Device → Device) (time : Option Int) : Act Device Unit := do
  let p ← get
  let is ← currentProgram time
  Board.play p.config.clock toZero is
  modify settle
  countUpdate

/-- Brings the board up to date when something has changed. A rehearsal takes no notice of a new rate. -/
def update : Act Device Unit := do
  let p ← get
  let time ← period p.rate
  match p.mode, time with
  | .live, time => if !p.settled || p.shifted || p.incremented || p.rated then play false settle time
  | .rehearsal, none => throw (.refused "Incorrect repetition rate dimension (Hz, kHz, MHz)")
  | .rehearsal, some t => if !p.settled || p.shifted || p.incremented then rehearse t

def allEqual : List Nat → Bool
  | [] => true
  | n :: rest => rest.all (· == n)

def checkPhases : Act Device Unit := do
  let p ← get
  ensure (p.mode == .live || allEqual p.phaseLengths) "Phase sequence does not have equal length"

def takePhase : Act Device Unit := do
  let p ← get
  let kept := dropPhases p.phasePulses p.pulses
  let step := phaseStep p.config p.mode p.phaseIndex kept
  modify fun p => { p with
    pulses := kept ++ step.added
    phasePulses := step.added.length
    settled := p.settled && !step.touched }
  match step.fault with
  | some f => throw f
  | none => modify fun p => { p with phaseIndex := p.phaseIndex + 1 }

def nextPhase : Act Device Unit := do
  checkPhases
  takePhase
  update

def restartCount (cycle : Value) : Act Device Unit := do
  if ← cycle.equals "False" then modify fun p => { p with updates := some 0 }

def settleReset (p : Device) : Device :=
  { p with settled := true, incremented := false, shifted := false, phaseIndex := 0 }

/-- Goes back to the declared pulses and plays them. A rehearsal only computes their program. -/
def reset (cycle : Value) : Act Device Unit := do
  let p ← get
  let time ← period p.rate
  match p.mode, time with
  | .live, time =>
    modify fun p => { p with pulses := p.declared }
    restartCount cycle
    play true settleReset time
  | .rehearsal, none => throw (.refused "Incorrect dimension of repetition rate (Hz, kHz, MHz)")
  | .rehearsal, some t =>
    modify fun p => { p with pulses := p.declared }
    let _ ← programFor (p.declared.map .ofPulse) t
    modify settleReset

def unsettle (p : Device) : Device :=
  { p with settled := false, incremented := false, shifted := false, phaseIndex := 0 }

def restoreOne (name : Value) : Act Device Unit := do
  let p ← get
  match ← name.placeAmong p.names with
  | none => return
  | some i =>
    let q ← pick p.pulses i
    let d ← pick p.declared i
    modify fun p => unsettle { p with pulses := p.pulses.set i { q with start := d.start, length := d.length } }

def restore (names : List Value) (cycle : Value) : Act Device Unit := do
  let p ← get
  if names.isEmpty then
    modify fun p => unsettle { p with pulses := p.declared }
    if p.mode == .live then restartCount cycle
  else
    checkKeys names
    (distinctNames names).forM restoreOne

/-- Plays programs from a file, or computes them again. A rehearsal then writes its programs down. -/
def useFile (flag : Value) (file : Value) : Act Device Unit := do
  let p ← get
  if ← flag.equals 1 then
    modify fun p => { p with fromFile := true }
    if p.mode == .live then
      match file with
      | .text name =>
        let text ← Bench.readFile name
        modify fun p => { p with recorded := some ((Text.lines text).map String.ofList) }
      | _ => throw .wrongType
  else if ← flag.equals 0 then modify fun p => { p with fromFile := false }

/-! ### Showing -/

def bar (scale : Nat) (lo hi : Int) (r : Row) : Outcome (List Int) :=
  if r.start < lo || r.stop < r.start || hi < r.stop then .error .wrongValue
  else
    let span (a b : Int) : Nat := scale * (b - a).toNat
    .ok (List.replicate (span lo r.start) 0 ++ List.replicate (span r.start r.stop) r.channel ++
      List.replicate (span r.stop hi) 0)

def bars (scale : Nat) (lo hi : Int) (rows : List Row) : Outcome (List (List Int)) := do
  if hi < lo then throw .wrongValue
  (rows.filter (·.channel != 0)).mapM (bar scale lo hi)

def lastStart (rows : List Row) : Int := (rows.map Row.start).foldl max ((rows.map Row.start).headD 0)

def picture (mode : Mode) (rows : List Row) : Outcome (List (List Int)) :=
  match mode with
  | .live => bars 2 (firstStart rows - leadIn) (lastStop rows) rows
  | .rehearsal => bars 1 0 (lastStart rows) rows

def instructionPicture (mode : Mode) (rows : List Row) : Outcome (List (List Int)) :=
  let rows := rows.map fun r => { r with stop := r.start + r.stop }
  match mode with
  | .live => bars 1 (firstStart rows) (lastStop rows) rows
  | .rehearsal => bars 1 (firstStart rows) (lastStart rows) rows

def transposed (rows : List (List Int)) : Value :=
  let width := (rows.headD []).length
  let columns := rows.map List.toArray
  let data := (List.range width).flatMap fun i => columns.map fun col => Decimal.ofInt (col.getD i 0)
  .floats [width, rows.length] data.toArray

def visualize : Act Device Unit := do
  let p ← get
  if p.mode == .live then
    let _ ← period p.rate
    let rows ← prepare p.properties
    let shown ← picture p.mode rows
    let _ ← Script.drawNow (Plot.plotSurface "Pulse Visualizer" (transposed shown)
      { startStep := .tuple [.tuple [0, 1], .tuple [0, 1]], xName := "Time", xScale := "ns",
        yName := "Pulse Number", yScale := "", zName := "2**(channel)", zScale := "" } "")

end Device
end EprBench.Pulser
