import EprBench.Bench.Card
import EprBench.Bench.Panel
import EprBench.Digitizer.Curve
import EprBench.Ladder
import EprBench.Value.Arithmetic

/-! A digitizer card: its settings, what they make of its registers, and how a recording is taken. -/
namespace EprBench.Digitizer

open Value

structure Model where
  title : String
  /-- Sample rates in hertz, lowest first. -/
  rates : List Int
  topRate : Int
  rateText : String
  rateReason : String
  step : Int
  sampleBytes : Nat
  triggerLoad : Int
  hasPaths : Bool
  ranges : List Int
  bufferedRanges : List Int
  offsetLow : Int
  offsetHigh : Int
  /-- In samples. -/
  topDelay : Int
  delayStep : String
  gap : String
  startPoints : Int
  startRange : Int
  startTrigger : Int

namespace Model

def least (m : Model) : Int := 2 * m.step

end Model

structure Recorder where
  model : Model
  mode : Mode
  /-- Sample rate in megahertz. -/
  rate : Number
  clockMode : Int := 1
  reference : Int := 100
  averaging : Bool := false
  triggerChannel : Int
  triggerMode : Int := 1
  averages : Int := 2
  /-- In samples. -/
  delay : Int := 0
  inputs : Inputs := .both
  points : Int
  posttrigger : Int := 64
  buffered : Bool := false
  /-- In millivolts. -/
  range0 : Int
  range1 : Int
  /-- In percent. -/
  offset0 : Int := 0
  offset1 : Int := 0
  coupling0 : Int := 0
  coupling1 : Int := 0
  impedance0 : Int := 1
  impedance1 : Int := 1
  opened : Bool := false
  panelRead : Bool := false
  window : Window := .start
  bufferBytes : Option Int := none
  fullScale : Option Int := none

namespace Recorder

def ofModel (m : Model) (mode : Mode) : Recorder where
  model := m
  mode := mode
  rate := .int m.topRate
  triggerChannel := if mode == .live then m.startTrigger else 2
  points := m.startPoints
  range0 := if mode == .live then m.startRange else 500
  range1 := if mode == .live then m.startRange else 500

/-! ### Numbers of points -/

def maxPretrigger : Int := 8000

inductive Remark where
  | tooFew
  | uneven
  | beyondPoints
  | tooFarApart
  deriving Repr, DecidableEq

abbrev Corrected := Int × List Remark

def correct (c : Corrected) (bad : Int → Bool) (mended : Int → Int) (r : Remark) : Corrected :=
  if bad c.1 then (mended c.1, c.2 ++ [r]) else c

def onGrid (step least n : Int) : Corrected :=
  let c := correct (n, []) (· < least) (fun _ => least) .tooFew
  correct c (fun n => n.fmod step != 0) (roundUp · step) .uneven

def pointsFor (m : Model) (posttrigger n : Int) : Corrected :=
  correct (onGrid m.step m.least n) (fun n => n - posttrigger > maxPretrigger) (fun _ => posttrigger + maxPretrigger)
    .tooFarApart

def posttriggerFor (m : Model) (mode : Mode) (points n : Int) : Corrected :=
  let beyond (n : Int) : Bool := match mode with
    | .live => n > points
    | .rehearsal => n ≥ points - m.step
  let c := correct (onGrid m.step m.step n) beyond (fun _ => points - m.step) .beyondPoints
  correct c (fun n => points - n > maxPretrigger) (fun _ => points - maxPretrigger) .tooFarApart

/-! ### Registers -/

def inputCode : Inputs → Int
  | .one .first => 1
  | .one .second => 2
  | .both => 3

def memory (r : Recorder) : Int := if r.averaging then r.points * r.averages else r.points

def bytes (r : Recorder) : Int := (r.memory * (r.model.sampleBytes * r.inputs.count : Nat)) % twoTo 64

def memoryRegisters (r : Recorder) : List (String × Value) :=
  ("SPC_MEMSIZE", .int r.memory) :: if r.averaging then [("SPC_SEGMENTSIZE", .int r.points)] else []

def rangeRegisters (r : Recorder) : List (String × Value) :=
  [("SPC_AMP0", .int r.range0), ("SPC_AMP1", .int r.range1)]

def offsetRegisters (r : Recorder) : List (String × Value) :=
  let sign : Int := if r.model.hasPaths then -1 else 1
  [("SPC_OFFS0", .int (sign * r.offset0)), ("SPC_OFFS1", .int (sign * r.offset1))]

def pathRegisters (r : Recorder) : List (String × Value) :=
  if r.model.hasPaths then
    let path : Int := if r.buffered then 0 else 1
    [("SPC_PATH0", .int path), ("SPC_PATH1", .int path)]
  else []

def impedanceRegisters (r : Recorder) : List (String × Value) :=
  if r.buffered then [("SPC_50OHM0", .int r.impedance0), ("SPC_50OHM1", .int r.impedance1)] else []

def registers (r : Recorder) : List (String × Value) :=
  [("SPC_CARDMODE", .int (if r.averaging then 2 else 1))] ++ r.memoryRegisters ++
  [("SPC_POSTTRIGGER", .int r.posttrigger),
   ("SPC_TRIG_TERM", .int r.model.triggerLoad),
   ("SPC_TRIG_ORMASK", .int r.triggerChannel)] ++
  (if r.triggerChannel == 2 then [("SPC_TRIG_EXT0_MODE", .int r.triggerMode)] else []) ++
  [("SPC_TRIG_DELAY", .int r.delay)] ++ r.pathRegisters ++
  [("SPC_CHENABLE", .int (inputCode r.inputs))] ++ r.rangeRegisters ++ r.offsetRegisters ++
  [("SPC_ACDC0", .int r.coupling0), ("SPC_ACDC1", .int r.coupling1)] ++ r.impedanceRegisters

def hertz (r : Recorder) : Outcome Int := do
  match ← Number.mul (.int 1000000) r.rate with
  | .int n => return n
  | .float x => truncated x

def putWide (register : String) (value : Int) : Work Unit := do
  let _ ← Card.putWide register (.int value)

def command (commands : List String) : Work Value := Card.put "SPC_M2CMD" (Card.joint commands)

def writeSetup : Work Unit := do
  let _ ← command ["M2CMD_CARD_WRITESETUP"]

def putClock (r : Recorder) : Work Unit := do
  match r.clockMode with
  | 1 => putWide "SPC_SAMPLERATE" (← r.hertz)
  | _ =>
    let _ ← Card.put "SPC_CLOCKMODE" (.int r.clockMode)
    putWide "SPC_REFERENCECLOCK" (r.reference * 1000000)
    putWide "SPC_SAMPLERATE" (← r.hertz)

def readFullScale : Act Recorder Unit := do
  let n ← (← Card.read "SPC_MIINST_MAXADCVALUE").toInt
  modify fun r => { r with fullScale := some n }

def fitBuffer : Act Recorder Unit := modify fun r => { r with bufferBytes := some r.bytes }

def setup : Act Recorder Unit := do
  if (← get).mode == .live then
    if !(← get).opened then
      let found ← Card.openAt "/dev/spcm1"
      modify fun r => { r with opened := true }
      if !found then Bench.stop "No card found..."
    let r ← get
    let _ ← Card.put "SPC_TIMEOUT" 10000
    putClock r
    Card.putAll r.registers
    readFullScale
    fitBuffer
    writeSetup

def refresh (change : Recorder → Work Unit) : Act Recorder Unit := do
  let r ← get
  if r.opened then
    change r
    writeSetup

def refreshMemory (registers : Recorder → List (String × Value)) (refit : Bool) : Act Recorder Unit := do
  let r ← get
  if r.opened then
    Card.putAll (registers r)
    if refit then fitBuffer
    writeSetup

def refreshRanges : Act Recorder Unit := do
  let r ← get
  if r.opened then
    if r.fullScale.isNone then throw .noMember
    readFullScale
    Card.putAll r.rangeRegisters
    writeSetup

def stop : Act Recorder Unit := do
  let r ← get
  if r.mode == .live then
    if !r.opened then throw .noMember
    let _ ← command ["M2CMD_CARD_STOP"]

def close : Act Recorder Unit := do
  let r ← get
  if r.mode == .live then
    if !r.opened then throw .noMember
    Card.close

/-! ### Recordings -/

def wanted (v : Value) : Outcome Want := do
  if ← v.equals (.bool false) then return .curve
  else if ← v.equals (.bool true) then return .integral
  else if ← v.equals "Both" then return .curveAndIntegral
  else return .unknown

def delivered (r : Recorder) (b : Bench) (bytes : Nat) : List Int :=
  let codes := b.samples
  (List.range (bytes / r.model.sampleBytes)).map fun i =>
    (codes.getD (i % codes.size) 0).bmod (twoTo (8 * r.model.sampleBytes))

def waitFor : Act Recorder Unit := do
  let _ ← command ["M2CMD_CARD_START", "M2CMD_CARD_ENABLETRIGGER", "M2CMD_DATA_STARTDMA"]
  let answer ← command ["M2CMD_CARD_WAITREADY", "M2CMD_DATA_WAITDMA"]
  if answer.same 263 then
    Bench.message "A timeout occurred while waiting. Probably the digitizer is not triggered"
    stop

def evaluate {α : Type} [Quantity α] (r : Recorder) (rate : α) (want : Value) (fullScale : Int) (codes : List Int) :
    Outcome (Result α) := do
  let scale : Scale α := ⟨r.range0, r.range1, fullScale, rate⟩
  if !r.averaging then return scale.single r.inputs codes
  let want ← wanted want
  match r.inputs with
  | .one c => scale.averagedOne c want (if r.panelRead then some r.window else none) r.averages r.points codes
  | .both => scale.averagedBoth want r.panelRead r.window r.averages r.points codes

def record (want : Value) : Act Recorder (Result Float) := do
  let r ← get
  let some bytes := r.bufferBytes | throw .noMember
  if bytes ≥ twoTo 63 then throw .overflow
  let some fullScale := r.fullScale | throw .noMember
  Bench.note (.download "SPCM_DIR_CARDTOPC" 0 bytes)
  waitFor
  evaluate r (← r.rate.real) want fullScale (r.delivered (← getThe Bench) bytes.toNat)

def rehearse (r : Recorder) (want : Want) : Result Float :=
  let flat := List.replicate r.points.toNat 0
  let area : Float := 1e-9
  match r.inputs, want, r.averaging with
  | .one _, .curve, _ => .curve flat flat
  | .one _, .integral, false => .curve flat flat
  | .one _, .integral, true => .integral area
  | .one _, _, _ => .nothing
  | .both, .curve, _ => .curves flat flat flat
  | .both, .integral, false => .curves flat flat flat
  | .both, .integral, true => .integrals area area
  | .both, .curveAndIntegral, false => .curves flat flat flat
  | .both, .curveAndIntegral, true => .curvesAndIntegrals flat [] [] area area
  | .both, .unknown, _ => .nothing

def row (xs : List Float) : Value := .floatRow xs.toArray

def resultValue : Result Float → Value
  | .curve t x => .tuple [row t, row x]
  | .curves t x y => .tuple [row t, row x, row y]
  | .integral x => .float x
  | .integrals x y => .tuple [.float x, .float y]
  | .curvesAndIntegrals t x y a b => .tuple [row t, row x, row y, .float a, .float b]
  | .nothing => .nothing

def rehearsedValue : Result Float → Value
  | .curvesAndIntegrals t _ _ a b => .tuple [row t, .float a, .float b, row t, row t]
  | other => resultValue other

def curve (v : Value) : Act Recorder Value := do
  let r ← get
  match r.mode with
  | .live => return resultValue (← record v)
  | .rehearsal => return rehearsedValue (r.rehearse (← wanted v))

end Recorder

end EprBench.Digitizer
