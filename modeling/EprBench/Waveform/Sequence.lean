import EprBench.Waveform.Generator

/-! The sequence mode, in which a script hands over a whole pulse train, and the pictures of buffers. -/
namespace EprBench.Waveform.Generator

open Value

structure TrainRequest where
  shapes : Value
  /-- In nanoseconds, as are steps, lengths and widths. -/
  starts : Value
  deltas : Value
  lengths : Value
  phases : Value
  sigmas : Value
  /-- In megahertz; a sweep is a pair of its centre and its width. -/
  frequencies : Value
  points : Value
  loop : Value
  /-- Repetition rate in hertz. -/
  rate : Value
  steepnesses : Value
  truncations : Value

def binaryLogarithm (v : Value) : Outcome Float := do
  match v with
  | .int (.ofNat n) =>
    let x := Decimal.ofInt n
    if Decimal.isFinite x || n == 0 then ofReal x
    else
      let size := n.log2 + 1
      return Float.log2 (Decimal.ofQuotient n (twoTo size)) + Decimal.ofInt size
  | v => ofReal (← v.toReal)
where
  ofReal (x : Float) : Outcome Float := if x > 0 then .ok (Float.log2 x) else .error .wrongValue

def bitsOf (v : Value) : Outcome Int := do truncated ((← binaryLogarithm v) + 1)

def segmentsWith (bits : Value → Outcome Int) (x : Value) : Outcome Int := do
  let k ← bits (← x.minus 1)
  return if k < 0 then 0 else twoTo k.toNat

def segmentsFor : Value → Outcome Int := segmentsWith bitsOf

def inSamples (rate : Int) (v : Value) : Outcome Float := do
  return (← (← operand v).real) * Decimal.ofInt rate / 1000

def wholeCell (x : Float) : Int :=
  match truncated x with
  | .ok n => if fitsCell n then n else -twoTo 63
  | .error _ => -twoTo 63

def wholeSamples (rate : Int) (v : Value) : Outcome (List Int) := do
  (← v.items).mapM fun x => return wholeCell (← inSamples rate x)

def row? : Value → Option (List Value)
  | .list vs | .tuple vs => some vs
  | v => if v.isArray then v.items.toOption else none

def widths (rate : Int) (v : Value) : Outcome (List Float) := do
  match row? v with
  | some vs => vs.mapM (inSamples rate)
  | none =>
    let _ ← inSamples rate v
    return []

def numbersOf (v : Value) : Outcome (List Float) := ((row? v).getD []).mapM fun x => do (← operand x).real

def trainShapes : List (String × Shape) := Shape.table.take 6

def shapesOf (v : Value) : Outcome (List (Option Shape)) := do (← v.items).mapM (·.choice trainShapes)

def randomPhase : Float := 1000

def trainPhases : List (String × Float) := phaseAngles ++ [("rand", randomPhase)]

def phasesOf (v : Value) : Outcome (List Float) := do
  return (← (← v.items).mapM (·.choice trainPhases)).reduceOption

def plainPair (a b : Value) : Option (Frequency Float) := do
  let x ← (← a.number?).real.toOption
  let y ← (← b.number?).real.toOption
  return .swept x y

/-- A frequency, if a sample can be computed with it. A pair from a list that can be changed is turned into first and
last frequency. -/
def trainFrequency (changeable : Bool) (v : Value) : Outcome (Option (Frequency Float)) := do
  match v.size with
  | .error _ => return v.number?.bind fun n => n.real.toOption.map .steady
  | .ok 2 =>
    let ends : Outcome (Float × Float) := do
      let x ← (← v.nth 0).toReal
      return (x, ← (← v.nth 1).toReal)
    match ends, changeable with
    | .ok (x, y), true =>
      let (f, g) := Tone.sweepEnds x y
      return some (.swept f g)
    | .ok _, false | .error .wrongType, _ => return plainPair (← v.nth 0) (← v.nth 1)
    | .error fault, _ => throw fault
  | .ok _ =>
    match row? v with
    | some (a :: b :: _) => return plainPair a b
    | _ => return none

def trainFrequencies (v : Value) : Outcome (List (Option (Frequency Float))) := do
  let changeable := match v with
    | .tuple _ | .text _ | .bytes _ => false
    | _ => true
  (← v.items).mapM (trainFrequency changeable)

def isWhole : Value → Bool
  | .int _ | .bool _ => true
  | _ => false

def TrainRequest.train (r : TrainRequest) (rate : Int) : Outcome (Train Float) := do
  let phases ← phasesOf r.phases
  let frequencies ← trainFrequencies r.frequencies
  let starts ← wholeSamples rate r.starts
  let deltas ← wholeSamples rate r.deltas
  let lengths ← wholeSamples rate r.lengths
  let sigmas ← widths rate r.sigmas
  let steepnesses ← numbersOf r.steepnesses
  let wholeSteepness := (row? r.steepnesses).any (·.all isWhole)
  let truncations ← numbersOf r.truncations
  if lengths.isEmpty || starts.isEmpty || deltas.isEmpty then throw .wrongValue
  return {
    shapes := []
    starts, deltas, lengths, phases, sigmas, frequencies, steepnesses, wholeSteepness, truncations }

def repetitionSamples (rate : Int) (v : Value) : Work Int := do
  let period ← (Value.int 1000000000).dividedBy v
  let size ← (← (← period.times (.int rate)).dividedBy 1000).toInt
  if size % blockSize == 0 then return size
  let size := roundUp size blockSize
  let time := Decimal.ofInt size * 1e-06 / Decimal.ofInt rate
  if time == 0 then throw .divisionByZero
  Bench.message ("Repetition rate should be divisible by 25.6 ns; The closest avalaibale number is used: " ++
    Decimal.floatText (1 / time) ++ " Hz")
  return size

def sequencing (g : Generator) : Generator := { g with sequenced := true }

def expecting (segments : Int) (loop : Value) (g : Generator) : Generator :=
  { g with sequenceSegments := segments, sequenceLoop := loop }

def emptied (size : Int) (g : Generator) : Generator :=
  { g with buffers := .filled [], blocks := .filled [], hasPointer := true,
           bufferBytes := (2 * size * g.channelCount) % twoTo 64 }

def keepBlock (block : Array Int) : Act Generator Unit :=
  let add : Stock → Stock
    | .filled bs => .filled (bs ++ [block])
    | other => other
  modify fun g => { g with buffers := add g.buffers, blocks := add g.blocks }

def keepPoint (setting : Train.Setting Float) (train : Train Float) (point : Nat) : Act Generator Unit := do
  modify fun g => { g with hasBuffer := true }
  keepBlock (← withDraws fun draws => train.pointBuffer setting draws point)

/-- Keeps a block for every point, and silent ones after the last point. -/
def keepTrain (setting : Train.Setting Float) (train : Train Float) (points silent : Nat) : Act Generator Unit := do
  (List.range points).forM (keepPoint setting train)
  (List.range silent).forM fun _ => keepBlock (silence setting.stereo setting.size)

def prepareTrainWith (bits : Value → Outcome Int) (r : TrainRequest) : Act Generator Unit := do
  modify sequencing
  let segments ← segmentsWith bits r.points
  modify (expecting segments r.loop)
  let g ← get
  let size ← repetitionSamples g.rate r.rate
  let train ← r.train g.rate
  modify (emptied size)
  let points ← r.points.asWhole
  if size < 0 then throw .overflow
  let train := { train with shapes := ← shapesOf r.shapes }
  let setting : Train.Setting Float :=
    { rate := g.rate, stereo := g.stereo, size := size.toNat, turn := g.limits.secondPhase }
  keepTrain setting train points.toNat (segments - points).toNat

def prepareTrain : TrainRequest → Act Generator Unit := prepareTrainWith bitsOf

/-! ### Checks of a rehearsal -/

def checkAll (vs : Value) (checks : List ((Value → Outcome Bool) × String)) : Outcome Unit := do
  (← vs.items).forM fun v => checks.forM fun (holds, reason) => do ensure (← holds v) reason

def isPositive (v : Value) : Outcome Bool := v.gt 0
def isNotNegative (v : Value) : Outcome Bool := v.ge 0

def isEvenNumber (v : Value) : Outcome Bool := do (← v.remainder 2).equals 0

/-- Checks a pulse train. Mind that widths are held against the limits of a frequency. -/
def checkTrain (r : TrainRequest) : Act Generator Unit := do
  modify sequencing
  let g ← get
  let lengths ← [r.shapes, r.starts, r.deltas, r.lengths, r.phases, r.sigmas, r.frequencies, r.steepnesses,
    r.truncations].mapM (Value.size ·)
  ensure (← r.loop.gt 0) "Number of loops should be higher than 0"
  ensure (← r.points.gt 0) "Number of points in pulse sequence should be higher than 0"
  ensure (← r.rate.gt 0) "Repetition rate is given in Hz and should be a positive number"
  (← r.shapes.items).zipIdx.forM fun (v, i) => do
    let shape ← v.choice trainShapes
    ensure shape.isSome "Only SINE, GAUSS, SINC, BLANK, WURST, and SECH/TANH pulses are available"
    if shape.any Shape.isSwept then
      ensure ((← (← r.frequencies.nth i).size) == 2)
        "For WURST and SECH/TANH pulses frequency should be a tuple: frequency = (\"Center\", \"Sweep\")"
  (← r.truncations.items).forM fun v => do if ← v.equals "SECH/TANH" then throw .wrongType
  checkAll r.starts [(isNotNegative, "Pulse starts should be positive numbers"),
    (isEvenNumber, "Pulse starts should be divisible by 2")]
  checkAll r.deltas [(isNotNegative, "Pulse delta starts should be positive numbers"),
    (isEvenNumber, "Pulse delta starts should be divisible by 2")]
  checkAll r.lengths [(isPositive, "Pulse lengths should be positive numbers"),
    (isEvenNumber, "Pulse lengths should be divisible by 2")]
  checkAll r.phases [(isOneOf ["+x", "-x", "-y", "+y"],
    "Pulse phase should be one of the following: [+x, -x, +y, -y]")]
  checkAll r.sigmas [(isPositive, "Pulse sigmas should be positive numbers")]
  checkAll r.sigmas [(within (.int g.limits.minFrequency) (.int g.limits.maxFrequency),
    s!"Pulse frequency should be from {Decimal.intText g.limits.minFrequency} MHz to {Decimal.intText g.limits.maxFrequency} MHz")]
  ensure (allEqual lengths) "Defined arrays in pulse sequence does not have equal length"

def takeTrain (r : TrainRequest) : Act Generator Unit := do
  match (← get).mode with
  | .live => prepareTrain r
  | .rehearsal => checkTrain r

/-! ### Pictures -/

def title : Plan → String
  | .single => "Buffer_single"
  | .joined => "Buffer_single_joined"
  | .multi => "Buffer_multi"
  | .sequence => "Buffer_sequence"

def draw (plan : Plan) (label : String) (xs : List Float) (ys : List Int) : Work Unit := do
  let _ ← Script.drawNow (Plot.plotCurve (title plan) (.floatRow xs.toArray) (.intRow ys.toArray)
    { label := .text label, xName := "X", yName := "Y" } "")

def firstChannel : List Int → List Int
  | a :: _ :: rest => a :: firstChannel rest
  | rest => rest

/-- Samples of the second channel would be drawn above the first, where 16 bits do not reach. -/
def visualizeBuffer (plan : Plan) : Act Generator Unit := do
  let block ← build plan
  release
  let g ← get
  let step := 1000 / Decimal.ofInt g.rate
  let xs := (List.range g.memory.toNat).map fun (i : Nat) => step * Decimal.ofInt i
  if g.stereo then
    draw plan "ch0" xs (firstChannel block.toList)
    throw .overflow
  draw plan "ch0 or ch1" xs block.toList

def visualizeSequence : Act Generator Unit := do
  let g ← get
  if g.mode == .rehearsal then return
  match g.buffers with
  | .gone => throw .noMember
  | .unset => throw .wrongType
  | .filled [] => throw .outOfRange
  | .filled (block :: _) =>
    let count := g.bufferBytes / (2 * g.channelCount)
    let xs := (List.range count.toNat).map fun (i : Nat) => Decimal.ofInt i * 1000 / Decimal.ofInt g.rate
    draw .sequence "0ch0" xs (if g.stereo then firstChannel block.toList else block.toList)
    throw .overflow

def visualize : Act Generator Unit := do
  match (← get).plan with
  | .sequence => visualizeSequence
  | plan => visualizeBuffer plan

end EprBench.Waveform.Generator
