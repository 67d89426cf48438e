import EprBench.Command
import EprBench.Digitizer.Recorder
import EprBench.Value.Elementwise

/-! The commands of the digitizers. -/
namespace EprBench.Digitizer

open Value

namespace Recorder

def silent (x : Act Recorder Unit) : Act Recorder Value := do
  x
  return .nothing

def reject {β : Type} (text reason : String) : Act Recorder β := do
  match (← get).mode with
  | .live => Bench.stop text
  | .rehearsal => throw (.refused reason)

def setting (name : String) (answer : Recorder → Outcome Value) (rehearsal : Recorder → Outcome Value)
    (take : Value → Act Recorder Unit) (apply : Act Recorder Unit := return)
    (tooMany : Outcome Value := .error (.refused "Incorrect argument")) : Command Recorder :=
  .variadic name fun vs => do
    let r ← get
    match vs, r.mode with
    | [], .live => answer r
    | [], .rehearsal => rehearsal r
    | [v], .live => silent do
      take v
      apply
    | [v], .rehearsal => silent (take v)
    | _, .live => silent apply
    | _, .rehearsal => tooMany

def choice (name : String) (table : List (String × Int)) (read : Recorder → Int) (put : Int → Recorder → Recorder)
    (rehearsal : Value) (text reason : String) : Command Recorder :=
  setting name (fun r => .ok (nameOf table (read r))) (fun _ => .ok rehearsal) fun v => do
    match table.lookup v.display with
    | some n => modify (put n)
    | none => reject text reason

/-! ### Numbers of points -/

def closest : String := "The closest avalaibale number"

def pointsRemark (m : Model) : Remark → String
  | .tooFew => s!"Number of points must be more than {Decimal.intText m.least}"
  | .uneven => s!"Number of points should be divisible by {Decimal.intText m.step}; {closest} is used"
  | .beyondPoints => ""
  | .tooFarApart =>
    s!"Difference between number of points and posttrigger points should be less than 8000;{m.gap}{closest} of points is used"

def posttriggerRemark (m : Model) : Remark → String
  | .tooFew => s!"Number of posttrigger points must be more than {Decimal.intText m.step}"
  | .uneven => s!"Number of posttrigger points should be divisible by {Decimal.intText m.step}; {closest} is used"
  | .beyondPoints => s!"Number of posttrigger points should be less than number of points; {closest} is used"
  | .tooFarApart =>
    s!"Difference between number of points and posttrigger points should be less than 8000; {closest} of posttrigger points is used"

/-- Takes a corrected number over. A session tells its corrections, a rehearsal refuses too small a number. -/
def takeCorrected (remark : Remark → String) (tooFew : String) (c : Corrected) (put : Int → Recorder → Recorder) :
    Act Recorder Unit := do
  match (← get).mode with
  | .live => c.2.forM fun x => Bench.message (remark x)
  | .rehearsal => ensure (!c.2.contains .tooFew) tooFew
  modify (put c.1)

def takePoints (v : Value) : Act Recorder Unit := do
  let n ← v.toInt
  let r ← get
  takeCorrected (pointsRemark r.model) s!"Number of points must be more than {Decimal.intText r.model.least}"
    (pointsFor r.model r.posttrigger n) fun n r => { r with points := n }

def takePosttrigger (v : Value) : Act Recorder Unit := do
  let n ← v.toInt
  let r ← get
  takeCorrected (posttriggerRemark r.model)
    s!"Number of postrigger points must be more than {Decimal.intText r.model.step}"
    (posttriggerFor r.model r.mode r.points n) fun n r => { r with posttrigger := n }

def takeAverages (v : Value) : Act Recorder Unit := do
  let n ← v.toInt
  ensure ((← get).mode == .live || (n ≥ 1 && n ≤ 100000))
    "Incorrect number of averages; Should be 1 <= Averages <= 10000"
  modify fun r => { r with averages := n }

def refreshAverages : Act Recorder Unit := do
  let r ← get
  if r.averaging then refreshMemory (fun r => [("SPC_MEMSIZE", .int r.memory)]) true
  else refreshMemory (fun _ => []) false

/-! ### Clock and trigger -/

def takeRate (v : Value) : Act Recorder Unit := do
  let wanted := 1000000 * (← v.toInt)
  let r ← get
  let nearest := nearestOf wanted r.model.rates
  if wanted > 1000000 * r.model.topRate || wanted ≤ 0 then reject r.model.rateText r.model.rateReason
  if nearest != wanted then
    Bench.message s!"Desired sample rate cannot be set, the nearest available value {Decimal.intText nearest} is used"
  modify fun r => { r with rate := .float (Decimal.ofQuotient nearest 1000000) }

def rateText (r : Recorder) : Value := .text (r.rate.value.display ++ " MHz")

def refreshRate : Act Recorder Unit := refresh fun r => do putWide "SPC_SAMPLERATE" (← r.hertz)

def takeReference (v : Value) : Act Recorder Unit := do
  let n ← v.toInt
  let reason := "Incorrect reference clock; Should be 100 MHz <= Clock <= 10 MHz"
  if n ≤ 100 && n ≥ 10 then modify fun r => { r with reference := n } else reject reason reason

def unitLengths : List (String × Int) := [("ms", 1000000), ("us", 1000), ("ns", 1)]

def takeDelay (v : Value) : Act Recorder Unit := do
  let words ← v.pieces ' '
  let x ← intOfText (← pick words 0)
  let unit ← pick words 1
  let r ← get
  match unitLengths.lookup unit with
  | none =>
    let text := "Incorrect delay dimension; Should be ns, us or ms"
    reject text text
  | some k =>
    let n ← truncated (← (← Number.mul (.int (x * k)) r.rate).div (.int 1000))
    let delay := if n.fmod r.model.step == 0 then n else roundUp n r.model.step
    modify fun r => { r with delay := delay }
    match r.mode with
    | .live =>
      if n.fmod r.model.step != 0 then
        let used ← Number.div (.int (delay * 1000)) r.rate
        Bench.message (s!"Delay should be divisible by {Decimal.intText r.model.step} samples ({r.model.delayStep}); " ++
          s!"{closest} {Decimal.floatText used} ns is used")
    | .rehearsal =>
      ensure (delay ≥ 0 && delay ≤ r.model.topDelay) "Incorrect delay; Should be 0 <= Delay <= 8589934560 samples"

def delayText (r : Recorder) : Outcome Value := do
  let x ← Number.div (.int r.delay) r.rate
  return .text (Decimal.floatText (x * 1000) ++ " ns")

/-! ### Inputs -/

def takeInputs (vs : List Value) : Act Recorder Value := do
  let r ← get
  let unknown := "Incorrect channel; Channel should be CH0 or CH1"
  let put (inputs : Inputs) : Act Recorder Value := silent (modify fun r => { r with inputs := inputs })
  match vs.map (·.display) with
  | [] =>
    match r.mode, r.inputs with
    | .rehearsal, _ => return "CH0"
    | .live, .one .first => return "CH0"
    | .live, .one .second => return "CH1"
    | .live, .both => return "CH0, CH1"
  | ["CH0"] => put (.one .first)
  | ["CH1"] => put (.one .second)
  | [_] => reject "Incorrect channel" unknown
  | ["CH0", "CH1"] => put .both
  | ["CH1", "CH0"] => put .both
  | [_, _] => reject unknown unknown
  | _ => reject "Incorrect argument; Channel should be CH0 or CH1" "Incorrect argument"

def takeRange (v : Value) : Act Recorder Unit := do
  let n ← v.toInt
  let r ← get
  let nearest := nearestOf n (if r.buffered then r.model.bufferedRanges else r.model.ranges)
  if nearest != n then
    Bench.message s!"Desired amplitude cannot be set, the nearest available value {Decimal.intText nearest} mV is used"
  modify fun r => { r with range0 := nearest, range1 := nearest }

def rangeText (r : Recorder) : Value :=
  .text s!"CH0: {Decimal.intText r.range0} mV; CH1: {Decimal.intText r.range1} mV"

structure Pair (β : Type) where
  read : Value → Outcome β
  use : β → Outcome Int
  check : String → β → Outcome Int
  first : Recorder → Int
  second : Recorder → Int
  put : Channel → Int → Recorder → Recorder
  rehearsal : Value

namespace Pair

variable {β : Type}

def putNamed (p : Pair β) (name : String) (n : Int) (r : Recorder) : Recorder :=
  match name with
  | "CH0" => p.put .first n r
  | "CH1" => p.put .second n r
  | _ => r

def number (p : Pair β) (mode : Mode) (suffix name : String) (x : β) : Outcome Int := do
  match mode with
  | .live => p.use x
  | .rehearsal =>
    ensure (name == "CH0" || name == "CH1") s!"Incorrect channel{suffix}; Should be CH0 or CH1"
    p.check suffix x

def run (p : Pair β) (apply : Act Recorder Unit) (vs : List Value) : Act Recorder Value := do
  let r ← get
  let finish : Act Recorder Value := silent (if r.mode == .live then apply else return)
  match vs, r.mode with
  | [a, x], mode =>
    let n ← p.number mode "" a.display (← p.read x)
    modify (p.putNamed a.display n)
    finish
  | [a, x, b, y], mode =>
    let u ← p.read x
    let v ← p.read y
    let n ← p.number mode " 1" a.display u
    let m ← p.number mode " 2" b.display v
    modify fun r => p.putNamed b.display m (p.putNamed a.display n r)
    finish
  | [a], .live =>
    match a.display with
    | "CH0" => return .text s!"CH0: {Decimal.intText (p.first r)}"
    | "CH1" => return .text s!"CH1: {Decimal.intText (p.second r)}"
    | _ => finish
  | [a], .rehearsal =>
    ensure (a.display == "CH0" || a.display == "CH1") "Incorrect channel; Should be CH0 or CH1"
    return p.rehearsal
  | _, .live => finish
  | _, .rehearsal => throw (.refused "Incorrect arguments")

end Pair

def offsets (m : Model) : Pair Int where
  read := toInt
  use := .ok
  check suffix n := do
    let low := Decimal.intText m.offsetLow
    let high := Decimal.intText m.offsetHigh
    ensure (n ≥ m.offsetLow && n ≤ m.offsetHigh)
      s!"Incorrect offset percentage{suffix}; Should be {low} <= offset <= {high}"
    return n
  first r := r.offset0
  second r := r.offset1
  put
    | .first, n, r => { r with offset0 := n }
    | .second, n, r => { r with offset1 := n }
  rehearsal := "CH0: 10"

def named (property names : String) (table : List (String × Int)) (first second : Recorder → Int)
    (put : Channel → Int → Recorder → Recorder) (rehearsal : Value) : Pair String where
  read v := .ok v.display
  use s := match table.lookup s with
    | some n => .ok n
    | none => .error .noKey
  check suffix s := match table.lookup s with
    | some n => .ok n
    | none => .error (.refused s!"Incorrect {property}{suffix}; Only {names} are available")
  first := first
  second := second
  put := put
  rehearsal := rehearsal

def couplings : Pair String :=
  named "coupling" "DC and AC" [("DC", 0), ("AC", 1)] (·.coupling0) (·.coupling1)
    (fun
      | .first, n, r => { r with coupling0 := n }
      | .second, n, r => { r with coupling1 := n })
    "CH0: DC"

def impedances : Pair String :=
  named "impedance" "1 M and 50" [("1 M", 0), ("50", 1)] (·.impedance0) (·.impedance1)
    (fun
      | .first, n, r => { r with impedance0 := n }
      | .second, n, r => { r with impedance1 := n })
    "CH0: 50"

def hasNoOffset (range : Int) : Bool := range == 1000 || range == 10000

def takeOffsets (vs : List Value) : Act Recorder Value := do
  let r ← get
  if r.mode == .live && r.buffered && (hasNoOffset r.range0 || hasNoOffset r.range1) then
    Bench.stop "No offset can be used for 1000 mV and 10000 mV range in Buffered mode"
  (offsets r.model).run (refresh fun r => Card.putAll r.offsetRegisters) vs

def takeImpedances (vs : List Value) : Act Recorder Value := do
  let text := "Impedance is fixed at 50 Ohm in HF mode"
  if !(← get).buffered then reject text text
  impedances.run (return) vs

/-! ### Settings of the control panel -/

def takePanel (lines : List String) : Act Recorder Unit := do
  let points ← Panel.field lines 0 1
  modify fun r => { r with points := points }
  let rate ← Panel.field lines 1 2
  modify fun r => { r with rate := .int rate }
  let posttrigger ← Panel.field lines 2 1
  modify fun r => { r with posttrigger := posttrigger }
  let range ← Panel.field lines 3 1
  modify fun r => { r with range0 := range, range1 := range }
  let offset0 ← Panel.field lines 4 2
  modify fun r => { r with offset0 := offset0 }
  let offset1 ← Panel.field lines 5 2
  modify fun r => { r with offset1 := offset1 }

/-- A rehearsal checks the file as if its settings were made by commands. -/
def rehearsePanel (lines : List String) : Act Recorder Unit := do
  takePoints (.int (← Panel.field lines 0 1))
  takeRate (.int (← Panel.field lines 1 2))
  takePosttrigger (.int (← Panel.field lines 2 1))
  takeRange (.int (← Panel.field lines 3 1))
  let offset0 ← Panel.field lines 4 2
  let offset1 ← Panel.field lines 5 2
  let _ ← takeOffsets ["CH0", .int offset0, "CH1", .int offset1]

def readPanel : Act Recorder Unit := do
  modify fun r =>
    { r with
      panelRead := true
      averaging := true
      clockMode := if r.model.hasPaths then 32 else r.clockMode
      reference := if r.model.hasPaths then 100 else r.reference }
  let lines ← Panel.read
  let mode := (← get).mode
  match mode with
  | .live => takePanel lines
  | .rehearsal => rehearsePanel lines
  Panel.takeWindow lines fun f (r : Recorder) => { r with window := f r.window }
  if mode == .live then setup

def windowLength (r : Recorder) : Outcome Value := do
  return .float (← Number.div (.int ((r.window.right - r.window.left) * 1000)) r.rate)

/-! ### The instruments -/

def shared (m : Model) : List (Command Recorder) := [
  .plain "digitizer_name" (return .text m.title),
  .plain "digitizer_setup" (silent setup),
  { name := "digitizer_get_curve"
    parameters := [.withDefault "integral" (.bool false)]
    run := fun given => match given.values with
      | [v] => curve v
      | _ => throw .wrongType },
  .plain "digitizer_close" (silent close),
  .plain "digitizer_stop" (silent stop),
  setting "digitizer_number_of_points" (fun r => .ok (.int r.points)) (fun r => .ok (.int r.points)) takePoints
    (refreshMemory memoryRegisters true),
  setting "digitizer_posttrigger" (fun r => .ok (.int r.posttrigger)) (fun r => .ok (.int r.posttrigger))
    takePosttrigger (refreshMemory (fun r => [("SPC_POSTTRIGGER", .int r.posttrigger)]) false),
  .variadic "digitizer_channel" takeInputs,
  setting "digitizer_sample_rate" (fun r => .ok r.rateText)
    (fun r => .ok (.text s!"{Decimal.intText r.model.topRate} MHz")) takeRate refreshRate,
  choice "digitizer_clock_mode" [("Internal", 1), ("External", 32)] (·.clockMode)
    (fun n r => { r with clockMode := n }) "Internal" clockReason clockReason,
  setting "digitizer_reference_clock" (fun r => .ok (.text s!"{Decimal.intText r.reference} MHz")) (fun _ => .ok 100)
    takeReference,
  choice "digitizer_card_mode" [("Single", 1), ("Average", 2)] (fun r => if r.averaging then 2 else 1)
    (fun n r => { r with averaging := n == 2 }) "Single" modeReason modeReason,
  choice "digitizer_trigger_channel" [("Software", 1), ("External", 2)] (·.triggerChannel)
    (fun n r => { r with triggerChannel := n }) "External" triggerReason triggerReason,
  choice "digitizer_trigger_mode" [("Positive", 1), ("Negative", 2), ("High", 8), ("Low", 10)] (·.triggerMode)
    (fun n r => { r with triggerMode := n }) "Positive" ("Incorrect trigger mode; " ++ triggerNames)
    ("Incorrect trigger mode;" ++ "".pushn ' ' 21 ++ triggerNames),
  setting "digitizer_number_of_averages" (fun r => .ok (.int r.averages)) (fun _ => .error .noName) takeAverages
    refreshAverages (.error .noName),
  setting "digitizer_trigger_delay" delayText (fun _ => .ok 0) takeDelay,
  setting "digitizer_amplitude" (fun r => .ok r.rangeText) (fun _ => .ok "CH0: 500 mV; CH1: 500 mV") takeRange
    refreshRanges (if m.hasPaths then .ok .nothing else .error (.refused "Incorrect amplitude")),
  .variadic "digitizer_offset" takeOffsets,
  .variadic "digitizer_coupling" (couplings.run (return)),
  .plain "digitizer_window" do
    windowLength (← get),
  .plain "digitizer_read_settings" (silent readPanel),
  .fixed "round_to_closest" ["x", "y"] fun
    | [x, y] => return .int (← x.multipleOf y)
    | _ => throw .wrongType]
where
  clockReason := "Incorrect clock mode; Only Internal and External modes are available"
  modeReason := "Incorrect card mode; Only Single and Average modes are available"
  triggerReason := "Incorrect trigger channel; Only Software and External modes are available"
  triggerNames := "Only Positive, Negative, High, and Low are available"

def paths : List (Command Recorder) := [
  choice "digitizer_input_mode" [("Buffered", 0), ("HF", 1)] (fun r => if r.buffered then 0 else 1)
    (fun n r => { r with buffered := n == 0 }) "HF" reason reason,
  .variadic "digitizer_impedance" takeImpedances]
where
  reason := "Incorrect input mode; Only HF and Buffered are available"

def view (r : Recorder) : String → Option Value
  | "points" => some (.int r.points)
  | "posttrig_points" => some (.int r.posttrigger)
  | "aver" => some (.int r.averages)
  | "sample_rate" => some r.rate.value
  | "read" => some (.int (if r.panelRead then 1 else 0))
  | "win_left" => some (.int r.window.left)
  | "win_right" => some (.int r.window.right)
  | _ => none

def instrument (m : Model) : Instrument where
  State := Recorder
  start := return ofModel m (← get).mode
  commands := shared m ++ if m.hasPaths then paths else []
  view := view

end Recorder

def m4i4450 : Model where
  title := "Spectrum M4I.4450-X8"
  rates := [1907, 3814, 7629, 15258, 30517, 61035, 122070, 244140, 488281, 976562, 1953125, 3906250, 7812500,
    15625000, 31250000, 62500000, 125000000, 250000000, 500000000]
  topRate := 500
  rateText := "Incorrect sample rate; Should be 500 <= Rate <= 50"
  rateReason := "Incorrect sample rate; Should be 500 MHz <= Rate <= 0.001907 MHz"
  step := 16
  sampleBytes := 2
  triggerLoad := 1
  hasPaths := true
  ranges := [500, 1000, 2500, 5000]
  bufferedRanges := [200, 500, 1000, 2000, 5000, 10000]
  offsetLow := 0
  offsetHigh := 100
  topDelay := 8589934576
  delayStep := "32 ns at 500 MHz"
  gap := "".pushn ' ' 25
  startPoints := 128
  startRange := 500
  startTrigger := 2

def m4i2211 : Model where
  title := "Spectrum M4I.2211-X8"
  rates := [9536, 19073, 38146, 76293, 152587, 305175, 610351, 1220703, 2441406, 4882812, 9765625, 19531250,
    39062500, 78125000, 156250000, 312500000, 625000000, 1250000000]
  topRate := 1250
  rateText := "Incorrect sample rate; Should be 1250 MHz <= Rate <= 0.009536 MHz"
  rateReason := "Incorrect sample rate; Should be 1250 MHz <= Rate <= 0.009536 MHz"
  step := 32
  sampleBytes := 1
  triggerLoad := 0
  hasPaths := false
  ranges := [200, 500, 1000, 2500]
  bufferedRanges := []
  offsetLow := -200
  offsetHigh := 200
  topDelay := 8589934560
  delayStep := "25.6 ns at 1250 MHz"
  gap := " "
  startPoints := 256
  startRange := 200
  startTrigger := 1

end EprBench.Digitizer
