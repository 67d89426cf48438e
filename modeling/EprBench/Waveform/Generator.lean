import EprBench.Bench.Card
import EprBench.Script
import EprBench.Waveform.Train

/-! The waveform generator: its settings, the declared pulses, and the card that plays them. The card is
loaded again only when something has changed. -/
namespace EprBench.Waveform

open Value

/-- What a script gets from a list of buffers that is not there from the beginning and is given away
after use. -/
inductive Stock where
  | unset
  | filled (buffers : List (Array Int))
  | gone

inductive Plan where
  | single
  | joined
  | multi
  | sequence
  deriving Repr, DecidableEq

structure Generator where
  limits : Limits
  mode : Mode
  flag : Option Value := none
  /-- Made ready in a rehearsal; only then are there prepared answers for one. -/
  rehearsed : Bool
  /-- Sample rate in megahertz. -/
  rate : Int := 1250
  clockMode : Int := 1
  reference : Int := 100
  multi : Bool := false
  joined : Bool := false
  sequenced : Bool := false
  triggerChannel : Int := 2
  triggerMode : Int := 1
  loops : Int := 0
  /-- In samples. -/
  delay : Int := 0
  /-- 1 and 2 for one channel, 3 for both. -/
  channel : Int := 3
  /-- In millivolts. -/
  amplitude0 : Int := 600
  amplitude1 : Int
  segments : Int := 1
  memory : Int := 64
  segmentMemory : Int := 32
  bufferBytes : Int := 4
  sequenceSegments : Int := 2
  sequenceLoop : Value := 1
  buffers : Stock := .unset
  blocks : Stock := .unset
  settled : Bool := false
  shifted : Bool := false
  lengthened : Bool := false
  changed : Bool := false
  pulses : List Pulse := []
  declared : List Pulse := []
  names : List Value := []
  names0 : List Value := []
  names1 : List Value := []
  phaseLengths0 : List Nat := []
  phaseLengths1 : List Nat := []
  phaseIndex : Nat := 0
  opened : Bool := false
  hasCard : Bool := false
  hasPointer : Bool := true
  hasBuffer : Bool := true
  updates : Int := 0

namespace Generator

def plan (g : Generator) : Plan :=
  if g.sequenced then .sequence else if g.multi then .multi else if g.joined then .joined else .single

def stereo (g : Generator) : Bool := g.channel == 3

def isStale (g : Generator) : Bool := !g.settled || g.shifted || g.lengthened || g.changed

def settle (g : Generator) : Generator :=
  { g with settled := true, shifted := false, lengthened := false, changed := false }

def cleanUpLimit : Int := 250000000

def countBytes (copies : Int) (g : Generator) : Generator :=
  if g.updates * g.bufferBytes * copies > cleanUpLimit then { g with updates := 0 } else g

/-! ### Buffers -/

def tooSmall : String := "Buffer size was rounded to the minimal available value (32 samples)"

def blockSamples (tones : List (Tone Float)) : Work Int := do
  let n := blockFor tones
  if n < blockSize then
    Bench.message tooSmall
    return blockSize
  return n

def allEqual : List Nat → Bool
  | [] => true
  | n :: rest => rest.all (· == n)

def checkCounts (g : Generator) : Outcome Unit :=
  let n0 := g.names0.length
  let n1 := g.names1.length
  match g.joined, g.channel with
  | false, 1 => ensure (n0 == 1 && n1 == 0) "Only one CH0 pulse can be defined in Single mode with only CH0 enabled"
  | false, 2 => ensure (n1 == 1 && n0 == 0) "Only one CH1 pulse can be defined in Single mode with only CH1 enabled"
  | false, _ =>
    ensure (n0 == 1 && n1 == 1) "Only one CH1 and CH0 pulses can be defined in Single mode with CH0 and CH1 enabled"
  | true, 1 =>
    ensure (n0 ≥ 1 && n1 == 0) "At least one CH0 pulse should be defined in Single Joined mode with only CH0 enabled"
  | true, 2 =>
    ensure (n1 ≥ 1 && n0 == 0) "At least one CH1 pulse should be defined in Single Joined mode with only CH1 enabled"
  | true, _ =>
    ensure (n0 > 0 && n1 == 0)
      ("Only CH0 pulses should be defined in Single Joined mode with CH0 and CH1 enabled. " ++
        "CH1 pulses are filled automatically")

def toneGroups (g : Generator) : Outcome (List (List (Tone Float))) := do
  Tone.groups g.mode (← Tone.ofPulses g.rate g.pulses)

def prepareSingle : Act Generator (Int × List (List (Tone Float))) := do
  let g ← get
  if g.mode == .rehearsal then ensure (!g.multi) "You are not in Single mode"
  let groups ← g.toneGroups
  if g.mode == .rehearsal then
    g.checkCounts
    ensure (g.segments == 1) "More than one segment is declared in Single mode. Please, use Multi mode"
  return (← blockSamples groups.flatten, groups)

def prepareMulti : Act Generator (Int × Nat × List (List (Tone Float))) := do
  let g ← get
  if g.mode == .rehearsal then
    ensure g.multi "You are not in Multi mode"
    ensure (g.triggerChannel == 2) "Segmented memory is available only in External trigger mode"
  let groups ← g.toneGroups
  if g.mode == .rehearsal then
    ensure (groups.all fun tones => (tones.length : Int) == g.segments)
      "Number of segments are not equal to the number of AWG pulses"
  let block ← blockSamples groups.flatten
  if g.mode == .rehearsal then
    ensure ((groups.length == 1 && !g.stereo) || (groups.length == 2 && g.stereo))
      "Number of enabled channels are not equal to the number of channels in AWG pulses"
  let segments := (groups.headD []).length
  return (block * segments, segments, groups)

def allocate (samples : Int) : Act Generator Unit := do
  modify fun g => { g with bufferBytes := (2 * samples) % twoTo 64, hasPointer := true }
  if samples < 0 then throw .overflow
  modify fun g => { g with hasBuffer := true }

def channelCount (g : Generator) : Int := if g.stereo then 2 else 1

def buildSingle : Act Generator (Array Int) := do
  let (memory, groups) ← prepareSingle
  modify fun g => { g with memory := memory }
  let g ← get
  allocate (memory * g.channelCount)
  singleBuffer g.rate g.stereo memory.toNat groups

def buildMulti : Act Generator (Array Int) := do
  let (memory, segments, groups) ← prepareMulti
  let size := memory / segments
  modify fun g => { g with memory := memory, segmentMemory := size }
  let g ← get
  allocate (memory * g.channelCount)
  multiBuffer g.rate g.stereo size.toNat segments groups

def withDraws {β : Type} (x : (Nat → Float) → Drawing β) : Work β := do
  let b ← get
  let draws (k : Nat) : Float := b.draws.getD (k % b.draws.size) 0.5
  let (result, drawn) := (x draws).run.run b.drawn
  modify fun b => { b with drawn := drawn }
  result

def joinedTones : Act Generator (List (Tone Float)) := do
  let (block, groups) ← prepareSingle
  modify fun g => { g with memory := block }
  let tones := groups.headD []
  modify fun g => { g with memory := joinedSize tones }
  return tones

def buildJoined : Act Generator (Array Int) := do
  let tones ← joinedTones
  let g ← get
  allocate (g.memory * g.channelCount)
  let missing := match g.buffers with
    | .gone => Fault.noMember
    | _ => .noName
  withDraws fun draws =>
    if g.stereo then stereoBuffer g.rate draws g.limits.secondPhase g.memory.toNat tones
    else monoBuffer g.rate draws missing g.memory.toNat tones

def build : Plan → Act Generator (Array Int)
  | .single => buildSingle
  | .joined => buildJoined
  | .multi => buildMulti
  | .sequence => return #[]

def release : Act Generator Unit := do
  if !(← get).hasPointer then throw .noMember
  modify fun g => { g with hasPointer := false }
  if !(← get).hasBuffer then throw .noMember
  modify fun g => { g with hasBuffer := false }

/-! ### Playing -/

def needCard : Act Generator Unit := do
  if !(← get).hasCard then throw .noMember

def put (register : String) (value : Value) : Act Generator Unit := do
  needCard
  let _ ← Card.put register value

def putWide (register : String) (value : Value) : Act Generator Unit := do
  needCard
  let _ ← Card.putWide register value

def megahertz (n : Int) : Value := .int (n * 1000000)

def openCard : Act Generator Unit := do
  if !(← get).opened then
    let found ← Card.openAt "/dev/spcm0"
    modify fun g => { g with hasCard := true, opened := true }
    if !found then Bench.stop "No card found..."

def putClock : Act Generator Unit := do
  let g ← get
  if g.clockMode == 32 then
    put "SPC_CLOCKMODE" g.clockMode
    putWide "SPC_REFERENCECLOCK" (megahertz g.reference)
  if g.clockMode == 32 || g.clockMode == 1 then putWide "SPC_SAMPLERATE" (megahertz g.rate)

def modeCode (g : Generator) : Int := if g.multi then 512 else 32768

def putMode : Act Generator Unit := do
  let g ← get
  match g.plan with
  | .sequence =>
    put "SPC_CARDMODE" "SPC_REP_STD_SEQUENCE"
    putWide "SPC_SEQMODE_MAXSEGMENTS" g.sequenceSegments
    put "SPC_SEQMODE_STARTSTEP" 0
  | plan =>
    put "SPC_CARDMODE" g.modeCode
    put "SPC_MEMSIZE" g.memory
    if plan == .multi then put "SPC_SEGMENTSIZE" g.segmentMemory

def writeSetup : Act Generator Unit := do
  if !(← get).sequenced then putWide "SPC_M2CMD" "M2CMD_CARD_WRITESETUP"

def outputs (g : Generator) : Int × Int := (if g.channel == 2 then 0 else 1, if g.channel == 1 then 0 else 1)

def putTrigger : Act Generator Unit := do
  let g ← get
  put "SPC_TRIG_TERM" 1
  put "SPC_TRIG_ORMASK" g.triggerChannel
  if g.triggerChannel == 2 then put "SPC_TRIG_EXT0_MODE" g.triggerMode

def putOutputs : Act Generator Unit := do
  let g ← get
  [("SPC_LOOPS", .int g.loops), ("SPC_TRIG_DELAY", .int g.delay), ("SPC_CHENABLE", .int g.channel),
    ("SPC_ENABLEOUT0", .int g.outputs.1), ("SPC_ENABLEOUT1", .int g.outputs.2),
    ("SPC_AMP0", Card.signed32 g.amplitude0), ("SPC_AMP1", Card.signed32 g.amplitude1)].forM fun (register, value) =>
      put register value

def checkCodes : Act Generator Unit := do
  if !(← Card.read "SPC_MIINST_MAXADCVALUE").same (.int (maxCode + 1)) then
    Bench.stop "self.maxCAD value does not equal to lMaxDACValue.value"

/-- Sends all settings to the card. A rehearsal builds the buffer instead. -/
def setup : Act Generator Unit := do
  let g ← get
  match g.mode with
  | .rehearsal =>
    if g.isStale then
      let _ ← build g.plan
  | .live =>
    openCard
    put "SPC_TIMEOUT" 10000
    putClock
    putMode
    putTrigger
    putOutputs
    checkCodes
    writeSetup

/-- An entry of the step memory: the segment to play, how often, the step that follows, and flags above all of it. -/
def stepEntry (flags loops next segment : Int) : Int :=
  (flags - flags % twoTo 20 + loops % twoTo 20) * twoTo 32 + (next * twoTo 16) % twoTo 32 + segment % twoTo 16

def lastStep : Int := twoTo 31

/-- Writes an entry of the step memory. Only the segment may be given as a text or a fraction. -/
def writeStep (index next segment loops flags : Value) : Act Generator Unit := do
  let flags ← flags.asWhole
  let loops ← loops.asWhole
  let next ← next.asWhole
  let entry := stepEntry flags loops next (← segment.toInt)
  putWide ("SPC_SEQMODE_STEPMEM0+" ++ Decimal.intText (← index.asWhole)) (Card.signed64 entry)

def loadSegment (index : Nat) (samples : Array Int) : Act Generator Unit := do
  let g ← get
  let size := g.bufferBytes / (2 * g.channelCount)
  put "SPC_SEQMODE_WRITESEGMENT" (.int index)
  putWide "SPC_SEQMODE_SEGMENTSIZE" size
  Card.upload samples
  Card.transfer
  let i : Int := index
  if i ≤ g.sequenceSegments - 2 then writeStep i (.int (i + 1)) i g.sequenceLoop 0
  else if i == g.sequenceSegments - 1 then writeStep i 0 i g.sequenceLoop lastStep

def loadSequence : Act Generator Unit := do
  match (← get).blocks with
  | .unset => throw .wrongType
  | .gone => throw .noMember
  | .filled bs =>
    bs.zipIdx.forM fun (block, i) => loadSegment i block
    release
    match (← get).buffers with
    | .gone => throw .noMember
    | _ => modify fun g => { g with buffers := .gone, blocks := .gone }
    modify fun g => countBytes g.sequenceSegments g

def loadBuffer (plan : Plan) (samples : Array Int) : Act Generator Unit := do
  put "SPC_MEMSIZE" (← get).memory
  if plan == .multi then put "SPC_SEGMENTSIZE" (← get).segmentMemory
  writeSetup
  Card.upload samples
  Card.transfer
  release
  modify (countBytes 1)

/-- Loads the card and starts it, when something has changed. A rehearsal only builds the buffer. -/
def update : Act Generator Unit := do
  let g ← get
  if !g.isStale then return
  modify fun g => { g with updates := g.updates + 1 }
  match g.mode with
  | .live =>
    if g.plan == .sequence then loadSequence
    else loadBuffer g.plan (← build g.plan)
    put "SPC_M2CMD" (Card.joint ["M2CMD_CARD_START", "M2CMD_CARD_ENABLETRIGGER", "M2CMD_CARD_WAITTRIGGER"])
  | .rehearsal =>
    let _ ← build g.plan
    release
    modify (countBytes 1)
  modify settle

def buildOnly : Act Generator Unit := do
  let g ← get
  if g.isStale then
    let _ ← build g.plan
    modify settle

/-! ### Declaring -/

def declare (p : Pulse) : Act Generator Unit :=
  modify fun g =>
    let pulses := g.pulses ++ [p]
    { g with pulses := pulses, declared := pulses }

def noteName (p : Pulse) : Act Generator Unit := modify fun g => { g with names := g.names ++ [p.name] }

def noteChannel (p : Pulse) : Act Generator Unit := do
  if ← p.channel.equals "CH0" then modify fun g => { g with names0 := g.names0 ++ [p.name] }
  else if ← p.channel.equals "CH1" then modify fun g => { g with names1 := g.names1 ++ [p.name] }

def notePhases (p : Pulse) : Act Generator Unit := do
  if ← p.channel.equals "CH0" then
    let n := (← p.phases.items).length
    modify fun g => { g with phaseLengths0 := g.phaseLengths0 ++ [n] }
  else if ← p.channel.equals "CH1" then
    let n := (← p.phases.items).length
    modify fun g => { g with phaseLengths1 := g.phaseLengths1 ++ [n] }

/-- Adds a pulse. A rehearsal checks it; what was noted before a check fails stays noted. -/
def addPulse (p : Pulse) : Act Generator Unit := do
  let g ← get
  match g.mode with
  | .live =>
    declare p
    noteName p
    noteChannel p
    notePhases p
  | .rehearsal =>
    notePhases p
    if g.names.any (!·.isKey) then throw .wrongType
    ensure (!g.names.any (·.isText p.name.display)) "Two pulses have the same name. Please, rename"
    noteName p
    ensure (["CH0", "CH1"].contains p.channel.display) "Incorrect channel. Only CH0 or CH1 are available"
    noteChannel p
    p.check g.limits
    declare p

def redefine (name : Value) (change : Pulse → Outcome Pulse) (flag : Generator → Generator) : Act Generator Unit := do
  let g ← get
  if g.mode == .rehearsal then
    ensure (← name.placeAmong g.names).isSome "Pulse with the specified name is not defined"
  g.pulses.zipIdx.forM fun (p, i) => do
    if ← name.equals p.name then
      let p' ← change p
      modify fun g => flag { g with pulses := g.pulses.set i p' }

/-! ### Moving -/

def distinctNames (names : List Value) : List Value :=
  names.foldl (fun seen n => if seen.any (·.same n) then seen else seen ++ [n]) []

def changePulses (change : Change Unit) : Act Generator Unit := do
  let (pulses, fault) := changeAll change {} (← get).pulses
  modify fun g => { g with pulses := pulses }
  match fault with
  | some f => throw f
  | none => return

def changeNamed (change : Change Unit) (finish : Generator → Generator) (seen : Seen) (name : Value) :
    Act Generator Seen := do
  let g ← get
  match ← name.placeAmong g.names with
  | none =>
    ensure (g.mode == .live) "There is no pulse with the specified name"
    return seen
  | some i =>
    let p ← pick g.pulses i
    let (result, s) := change.run.run { pulse := p, seen := seen }
    modify fun g => { g with pulses := g.pulses.set i s.pulse }
    match result with
    | .error f => throw f
    | .ok _ =>
      modify finish
      return s.seen

def changeEach (change : Change Unit) (finish : Generator → Generator) (names : List Value) : Act Generator Unit := do
  if names.any (!·.isKey) then throw .wrongType
  let _ ← (distinctNames names).foldlM (changeNamed change finish) {}

def shift (names : List Value) : Act Generator Unit := do
  modify fun g => { g with shifted := true, phaseIndex := 0 }
  let change := if (← get).joined then shiftStart else shiftPhase
  if names.isEmpty then changePulses change else changeEach change id names

def grow (names : List Value) : Act Generator Unit := do
  let g ← get
  let finish (g : Generator) : Generator := { g with lengthened := true, phaseIndex := 0 }
  if names.isEmpty then
    changePulses (lengthen g.limits g.mode false)
    modify finish
  else changeEach (lengthen g.limits g.mode true) finish names

def nextPhase : Act Generator Unit := do
  let g ← get
  if g.mode == .rehearsal then
    ensure (allEqual g.phaseLengths0) "Phase sequence for CH0 does not have equal length"
    ensure (allEqual g.phaseLengths1) "Phase sequence for CH1 does not have equal length"
  g.pulses.zipIdx.forM fun (p, i) => do
    let declared := ((g.declared[i]?).map (·.phase)).getD .nothing
    match ← cyclePhase g.mode g.phaseIndex p declared with
    | none => return
    | some phase =>
      modify fun g => { g with pulses := g.pulses.set i { p with phase := phase }, settled := false }
  modify fun g => { g with phaseIndex := g.phaseIndex + 1 }
  update

def reset : Act Generator Unit := do
  modify fun g => { g with pulses := g.declared, updates := 0 }
  update
  modify fun g => { g with settled := true, lengthened := false, shifted := false, phaseIndex := 0 }

def unsettle (g : Generator) : Generator := { g with settled := false, lengthened := false, shifted := false }

/-- Goes back to the declared pulses without playing them. A single pulse keeps its start. -/
def restore (names : List Value) : Act Generator Unit := do
  if names.isEmpty then
    modify fun g => unsettle { g with pulses := g.declared, phaseIndex := 0, updates := 0 }
  else
    if names.any (!·.isKey) then throw .wrongType
    (distinctNames names).forM fun name => do
      let g ← get
      match ← name.placeAmong g.names with
      | none => return
      | some i =>
        let p ← pick g.pulses i
        let d ← pick g.declared i
        modify fun g =>
          unsettle { g with pulses := g.pulses.set i { p with phase := d.phase, length := d.length, sigma := d.sigma } }

def clear (opened : Bool) (g : Generator) : Generator :=
  { g with pulses := [], names := [], declared := [], names0 := [], names1 := [], settled := false,
           shifted := false, lengthened := false, changed := false, opened := opened, phaseIndex := 0 }

end Generator
end EprBench.Waveform
