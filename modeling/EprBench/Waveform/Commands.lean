import EprBench.Factory
import EprBench.Waveform.Sequence

/-! The commands of the waveform generator. -/
namespace EprBench.Waveform

open Value

namespace Generator

def silent (x : Act Generator Unit) : Act Generator Value := do
  x
  return .nothing

def reject {β : Type} (text reason : String) : Act Generator β := do
  match (← get).mode with
  | .live => Bench.stop text
  | .rehearsal => throw (.refused reason)

def prepared (v : Value) : Act Generator Value := do
  if (← get).rehearsed then return v else throw .noMember

/-! ### Settings -/

def markChanged : Act Generator Unit := modify fun g => { g with changed := true }

def setting (name : String) (answer : Generator → Value) (rehearsal : Value) (take : Value → Act Generator Unit)
    (tooMany : String := "Incorrect argument") : Command Generator :=
  .variadic name fun vs => do
    markChanged
    let g ← get
    match vs, g.mode with
    | [], .live => return answer g
    | [], .rehearsal => prepared rehearsal
    | [v], _ => silent (take v)
    | _, .live => return .nothing
    | _, .rehearsal => throw (.refused tooMany)

def choice (name : String) (table : List (String × Int)) (read : Generator → Int) (put : Int → Generator → Generator)
    (rehearsal : Value) (text reason : String) : Command Generator :=
  setting name (fun g => nameOf table (read g)) rehearsal fun v => do
    match table.lookup v.display with
    | some n => modify (put n)
    | none => reject text reason

def bounded (name : String) (low high : Int) (answer : Generator → Value) (put : Int → Generator → Generator)
    (rehearsal : Value) (text : String) : Command Generator :=
  setting name answer rehearsal fun v => do
    let n ← v.toInt
    if n ≤ high && n ≥ low then modify (put n) else reject text text

def clockModes : List (String × Int) := [("Internal", 1), ("External", 32)]
def triggerChannels : List (String × Int) := [("Software", 1), ("External", 2)]
def triggerModes : List (String × Int) := [("Positive", 1), ("Negative", 2), ("High", 8), ("Low", 10)]

def modeName (g : Generator) : String :=
  match g.plan with
  | .single => "Single"
  | .joined => "Single Joined"
  | .multi => "Multi"
  | .sequence => "Sequence"

def takeMode (v : Value) : Act Generator Unit := do
  match v.display with
  | "Single" => modify fun g => { g with joined := false, multi := false }
  | "Single Joined" => modify fun g => { g with joined := true, multi := false }
  | "Multi" => modify fun g => { g with multi := true }
  | "Sequence" => modify fun g => { g with sequenced := true }
  | _ =>
    reject "Incorrect card mode; Only Single, Single Joined, Multi, and Sequence modes are available"
      ("Incorrect card mode; Only Single," ++ "".pushn ' ' 79 ++
        "Single Joined, Multi, and Sequence modes are available")

def takeSegments (v : Value) : Act Generator Unit := do
  let n ← v.toInt
  let g ← get
  match g.mode with
  | .live => if !g.multi && n != 1 then Bench.stop "AWG is not in Multi mode"
  | .rehearsal =>
    ensure (n == 1 || g.multi)
      ("Number of segments higher than one is available only in Multi mode. " ++
        "Please, change it using awg_card_mode()")
    ensure (n > 0 && n ≤ 200) "Incorrect number of segments; Should be 0 < segmenets <= 200"
  modify fun g => { g with segments := n }

def maxLoops : Int := 100000

def takeLoops (v : Value) : Act Generator Unit := do
  let n ← v.toInt
  ensure ((← get).mode == .live || (n ≥ 0 && n ≤ maxLoops)) "Incorrect number of loops; Should be 0 <= Loop <= 100000"
  modify fun g => { g with loops := n }

def maxDelay : Int := 8589934560

def takeDelay (v : Value) : Act Generator Unit := do
  let words ← v.pieces ' '
  let x ← realOfText (← pick words 0)
  let unit ← pick words 1
  let g ← get
  match unitLengths.lookup unit with
  | none =>
    let text := "Incorrect delay dimension; Should be ns, us or ms"
    reject text text
  | some k =>
    let n ← truncated (x * Decimal.ofInt k * Decimal.ofInt g.rate / 1000)
    let delay := if n % blockSize == 0 then n else roundUp n blockSize
    modify fun g => { g with delay := delay }
    match g.mode with
    | .live =>
      if n % blockSize != 0 then
        Bench.message ("Delay should be divisible by 32 samples (25.6 ns at 1.250 GHz); The closest avalaibale number " ++
          Decimal.floatText (Decimal.ofQuotient (delay * 1000) g.rate) ++ " ns is used")
    | .rehearsal =>
      ensure (delay ≥ 0 && delay ≤ maxDelay) "Incorrect delay; Should be 0 <= Delay <= 8589934560 samples"

def delayText (g : Generator) : Value :=
  .text (Decimal.floatText (Decimal.ofQuotient g.delay g.rate * 1000) ++ " ns")

def takeChannels (vs : List Value) : Act Generator Value := do
  markChanged
  let g ← get
  let unknown := "Incorrect channel; Channel should be CH0 or CH1"
  match vs.map (·.display) with
  | [] =>
    match g.mode with
    | .live => return if g.stereo then "CH0, CH1" else nameOf [("CH0", (1 : Int)), ("CH1", 2)] g.channel
    | .rehearsal => prepared "CH0"
  | [name] =>
    match [("CH0", (1 : Int)), ("CH1", 2)].lookup name with
    | some n => silent (modify fun g => { g with channel := n })
    | none => reject "Incorrect channel" unknown
  | [a, b] =>
    if (a == "CH0" && b == "CH1") || (a == "CH1" && b == "CH0") then
      silent (modify fun g => { g with channel := 3 })
    else reject unknown unknown
  | _ => reject "Incorrect argument; Channel should be CH0 or CH1" "Incorrect argument"

def checkAmplitude (suffix : String) (channel : String) (n : Int) : Act Generator Unit := do
  if (← get).mode == .rehearsal then
    ensure (channel == "CH0" || channel == "CH1") s!"Incorrect channel{suffix}; Should be CH0 or CH1"
    ensure (n ≥ 80 && n ≤ 2500) s!"Incorrect amplitude{suffix}; Should be 80 <= amplitude <= 2500"

def putAmplitude (channel : String) (n : Int) (g : Generator) : Generator :=
  match channel with
  | "CH0" => { g with amplitude0 := n }
  | "CH1" => { g with amplitude1 := n }
  | _ => g

def amplitudeText (n : Int) : Value := .text (Decimal.intText n ++ " mV")

def takeAmplitudes (vs : List Value) : Act Generator Value := do
  markChanged
  let g ← get
  match vs, g.mode with
  | [a, x], _ =>
    let n ← x.toInt
    checkAmplitude "" a.display n
    silent (modify (putAmplitude a.display n))
  | [a, x, b, y], _ =>
    let n ← x.toInt
    let m ← y.toInt
    checkAmplitude " 1" a.display n
    checkAmplitude " 2" b.display m
    silent (modify fun g => putAmplitude b.display m (putAmplitude a.display n g))
  | [a], .live =>
    match a.display with
    | "CH0" => return amplitudeText g.amplitude0
    | "CH1" => return amplitudeText g.amplitude1
    | _ => return .nothing
  | [a], .rehearsal =>
    ensure (a.display == "CH0" || a.display == "CH1") "Incorrect channel; Should be CH0 or CH1"
    return "600 mV"
  | _, .live => return .nothing
  | _, .rehearsal => throw (.refused "Incorrect arguments")

def settings : List (Command Generator) := [
  setting "awg_number_of_segments" (fun g => .int g.segments) 1 takeSegments "Incorrect argumnet",
  .variadic "awg_channel" takeChannels,
  bounded "awg_sample_rate" 50 1250 (fun g => .text (Decimal.intText g.rate ++ " MHz"))
    (fun n g => { g with rate := n }) "1250 MHz" "Incorrect sample rate; Should be 1250 MHz <= Rate <= 50 MHz",
  choice "awg_clock_mode" clockModes (·.clockMode) (fun n g => { g with clockMode := n }) "Internal" clockReason
    clockReason,
  bounded "awg_reference_clock" 10 1000 (fun g => .text (Decimal.intText g.reference ++ " MHz"))
    (fun n g => { g with reference := n }) 100 "Incorrect reference clock; Should be 1000 MHz <= Clock <= 10 MHz",
  setting "awg_card_mode" (fun g => .text g.modeName) "Single" takeMode,
  choice "awg_trigger_channel" triggerChannels (·.triggerChannel) (fun n g => { g with triggerChannel := n })
    "External" triggerReason triggerReason,
  choice "awg_trigger_mode" triggerModes (·.triggerMode) (fun n g => { g with triggerMode := n }) "Positive"
    ("Incorrect trigger mode; " ++ triggerNames) ("Incorrect trigger mode;" ++ "".pushn ' ' 21 ++ triggerNames),
  setting "awg_loop" (fun g => .int g.loops) 0 takeLoops,
  setting "awg_trigger_delay" delayText 0 takeDelay,
  .variadic "awg_amplitude" takeAmplitudes]
where
  clockReason := "Incorrect clock mode; Only Internal and External modes are available"
  triggerReason := "Incorrect trigger channel; Only Software and External modes are available"
  triggerNames := "Only Positive, Negative, High, and Low are available"

/-! ### Pulses -/

def redefinition (name property : String) (change : Generator → Value → Pulse → Outcome Pulse)
    (flag : Generator → Generator := fun g => { g with shifted := true }) : Command Generator :=
  { name := name
    byName := [.needed "name", .needed property]
    run := fun given => do
      let g ← get
      match given.values with
      | [pulse, v] => silent (redefine pulse (change g v) flag)
      | _ => throw .wrongType }

def newDeltaStart (g : Generator) (v : Value) (p : Pulse) : Outcome Pulse := do
  if g.mode == .rehearsal then checkNewDeltaStart v
  return { p with deltaStart := .text v.display }

def newFrequency (g : Generator) (v : Value) (p : Pulse) : Outcome Pulse := do
  if g.mode == .rehearsal then
    if !(← p.function.differs "WURST") then throw .noName
    if !(← p.function.differs "SECH/TANH") then throw .noName
    checkFrequency g.limits v
  return { p with frequency := v }

def newIncrement (g : Generator) (v : Value) (p : Pulse) : Outcome Pulse := do
  if g.mode == .rehearsal then checkIncrement g.limits v
  return { p with lengthIncrement := .text v.display }

def addedPhase (v : Value) (p : Pulse) : Outcome Pulse := do
  let step ← v.toReal
  return { p with phase := ← p.phase.plus (.float step) }

def pulseList : Act Generator Value := do
  let g ← get
  let head := "AWG card mode: " ++ (if g.multi then "Multi" else if g.joined then "Single Joined" else "Single") ++ "\n"
  let amplitudes ← if g.joined && !g.multi then do
      let a ← takeAmplitudes ["CH0"]
      let b ← takeAmplitudes ["CH1"]
      pure ("AWG amplitude (CH0, CH1): " ++ a.display ++ "; " ++ b.display ++ "\n")
    else pure ""
  if g.sequenced then throw .noName
  return .text (head ++ amplitudes ++ String.join (g.pulses.map fun p => p.table.display ++ "\n"))

def pulseParameters : List Parameter := [
  .withDefault "name" "P0", .withDefault "channel" "CH0", .withDefault "func" "SINE",
  .withDefault "frequency" "200 MHz", .withDefault "phase" 0, .withDefault "delta_phase" 0,
  .withDefault "phase_list" (.list []), .withDefault "length" "16 ns", .withDefault "sigma" "0 ns",
  .withDefault "length_increment" "0 ns", .withDefault "start" "0 ns", .withDefault "delta_start" "0 ns",
  .withDefault "d_coef" 1, .withDefault "n" 1, .withDefault "b" (.float 0.02)]

def declaring : List (Command Generator) := [
  { name := "awg_pulse"
    parameters := pulseParameters
    run := fun given => match given.values with
      | [name, channel, function, frequency, phase, deltaPhase, phases, length, sigma, lengthIncrement, start,
          deltaStart, attenuation, steepness, truncation] =>
        silent (addPulse {
          name, channel, function, frequency, phase, deltaPhase, length, sigma, lengthIncrement, start, deltaStart,
          attenuation, phases, steepness, truncation })
      | _ => throw .wrongType },
  redefinition "awg_redefine_delta_start" "delta_start" newDeltaStart,
  redefinition "awg_redefine_frequency" "freq" newFrequency,
  redefinition "awg_redefine_phase" "phase" fun _ v p => return { p with phase := .float (← v.toReal) },
  redefinition "awg_redefine_delta_phase" "delta_phase" fun _ v p => return { p with deltaPhase := .float (← v.toReal) },
  redefinition "awg_add_phase" "add_phase" fun _ v p => addedPhase v p,
  redefinition "awg_redefine_length_increment" "length_increment" newIncrement fun g => { g with lengthened := true },
  .plain "awg_clear" (silent (modify (clear false))),
  .plain "awg_clear_pulses" (silent (modify (clear true))),
  .plain "awg_pulse_list" pulseList,
  { name := "awg_pulse_sequence"
    byName := ["pulse_type", "pulse_start", "pulse_delta_start", "pulse_length", "pulse_phase", "pulse_sigma",
      "pulse_frequency", "number_of_points", "loop", "rep_rate", "n", "b_sech"].map .needed
    run := fun given => match given.values with
      | [shapes, starts, deltas, lengths, phases, sigmas, frequencies, points, loop, rate, steepnesses, truncations] =>
        silent (takeTrain {
          shapes, starts, deltas, lengths, phases, sigmas, frequencies, points, loop, rate, steepnesses, truncations })
      | _ => throw .wrongType }]

def playing : List (Command Generator) := [
  .plain "awg_name" (return "Spectrum M4I.6631-X8"),
  .plain "awg_setup" (silent setup),
  .plain "awg_update" (silent update),
  .plain "awg_update_test" (silent buildOnly),
  .plain "awg_close" (silent do
    if (← get).mode == .live then
      needCard
      Card.close),
  .plain "awg_stop" (silent do
    if (← get).mode == .live then
      put "SPC_M2CMD" "M2CMD_CARD_STOP"
      modify fun g => { g with settled := false }),
  .plain "awg_next_phase" (silent nextPhase),
  .variadic "awg_shift" fun names => silent (shift names),
  .variadic "awg_increment" fun names => silent (grow names),
  .plain "awg_reset" (silent reset),
  .variadic "awg_pulse_reset" fun names => silent (restore names),
  .plain "awg_visualize" (silent visualize),
  .unary "awg_test_flag" "flag" fun v =>
    silent (modify fun g => { g with mode := if v.isText "test" then .rehearsal else .live, flag := some v })]

/-! ### Steps -/

def rowsValue (tones : List (Tone Float)) : Value := .list (tones.map Tone.cells)

def groupsValue (groups : List (List (Tone Float))) : Value := .list (groups.map rowsValue)

def blockValue (block : Array Int) : Value := .tuple [.samples block, .thing "pointer"]

def noStep : Value → Value → Bool
  | .int m, .int n => m == n
  | .float x, .float y => y - x == 0
  | _, _ => false

def groupRows (v : Value) : Outcome Value := do
  let rows ← match v with
    | .ints (_ :: _ :: _) _ | .floats (_ :: _ :: _) _ => v.items
    | .ints .. | .floats .. => throw .outOfRange
    | _ => throw .wrongType
  let keyed ← rows.mapM fun r => do return (← r.nth 0, r)
  return .list ((keyed.splitBy fun a b => noStep a.1 b.1).map fun run => .list (run.map (·.2)))

def splitRows (mode : Mode) (v : Value) : Outcome Value :=
  match mode, groupRows v with
  | .rehearsal, .error .outOfRange => .error (.refused "No AWG pulses are defined")
  | _, result => result

/-! ### Bell curves -/

structure Bell where
  height : Value
  centre : Value
  width : Value

def Bell.at (b : Bell) (x : Value) : Outcome (Tensor Float) := do
  let exponent ← (← (0 : Value).minus (← (← x.minus b.centre).square)).dividedBy b.width
  (← b.height.besideArray).zipWith (· * ·) ((← exponent.toTensor).map Float.exp)

def bells (x base : Value) (bs : List Bell) : Outcome Value := do
  let total ← bs.foldlM (fun sum b => do (sum).zipWith (· + ·) (← b.at x)) (← base.besideArray)
  match total.shape, total.cells with
  | [], [y] => return .float y
  | _, _ => return ofTensor total

def steps : List (Command Generator) := [
  .unary "convertion_to_numpy" "p_array" fun v => do
    return rowsValue (← Tone.ofTables (← get).rate v),
  .unary "splitting_acc_to_channel" "np_array" fun v => do splitRows (← get).mode v,
  .plain "preparing_buffer_single" do
    let (memory, groups) ← prepareSingle
    return .tuple [.int memory, groupsValue groups],
  .plain "preparing_buffer_multi" do
    let (memory, segments, groups) ← prepareMulti
    return .tuple [.int memory, .int segments, groupsValue groups],
  .plain "define_buffer_single" (return blockValue (← buildSingle)),
  .plain "define_buffer_multi" (return blockValue (← buildMulti)),
  .plain "define_buffer_single_joined" do
    if (← get).joined then return blockValue (← buildJoined)
    let _ ← joinedTones
    return .nothing,
  .unary "closest_power_of_two" "x" fun v => return .int (← segmentsFor v),
  .fixed "write_seg_memory" ["hCard", "dwStepIndex", "dwStepNextIndex", "dwSegmentIndex", "dwLoops", "dwFlags"] fun
    | [_, index, next, segment, loops, flags] => silent do
      if (← get).mode == .live then writeStep index next segment loops flags
    | _ => throw .wrongType,
  .fixed "double_gauss" ["x", "bl", "a1", "x1", "w1", "a2", "x2", "w2"] fun
    | [x, base, a1, x1, w1, a2, x2, w2] => bells x base [⟨a1, x1, w1⟩, ⟨a2, x2, w2⟩]
    | _ => throw .wrongType,
  .fixed "triple_gauss" ["x", "bl", "a1", "x1", "w1", "a2", "x2", "w2", "a3", "x3", "w3"] fun
    | [x, base, a1, x1, w1, a2, x2, w2, a3, x3, w3] => bells x base [⟨a1, x1, w1⟩, ⟨a2, x2, w2⟩, ⟨a3, x3, w3⟩]
    | _ => throw .wrongType,
  .fixed "round_to_closest" ["x", "y"] fun
    | [x, y] => return .int (← x.multipleOf y)
    | _ => throw .wrongType]

def flagValue (b : Bool) : Value := .int (if b then 1 else 0)

def Stock.value? : Stock → Option Value
  | .unset => some 0
  | .filled bs => some (.list (bs.map .samples))
  | .gone => none

def view (g : Generator) : String → Option Value
  | "memsize" => some (.int g.memory)
  | "segment_memsize" => some (.int g.segmentMemory)
  | "pulse_array" => some (.list (g.pulses.map Pulse.table))
  | "pulse_array_init" => some (.list (g.declared.map Pulse.table))
  | "pulse_name_array" => some (.list g.names)
  | "pulse_ch0_array" => some (.list g.names0)
  | "pulse_ch1_array" => some (.list g.names1)
  | "phase_array_length_0" => some (.list (g.phaseLengths0.map fun (n : Nat) => .int n))
  | "phase_array_length_1" => some (.list (g.phaseLengths1.map fun (n : Nat) => .int n))
  | "update_counter" => some (.int g.updates)
  | "current_phase_index" => some (.int g.phaseIndex)
  | "reset_count" => some (flagValue g.settled)
  | "shift_count" => some (flagValue g.shifted)
  | "increment_count" => some (flagValue g.lengthened)
  | "setting_change_count" => some (flagValue g.changed)
  | "sequence_mode_count" => some 0
  | "delay" => some (.int g.delay)
  | "amplitude_0" => some (.int g.amplitude0)
  | "amplitude_1" => some (.int g.amplitude1)
  | "reference_clock" => some (.int g.reference)
  | "loop" => some (.int g.loops)
  | "sample_rate" => some (.int g.rate)
  | "trigger_mode" => some (.int g.triggerMode)
  | "trigger_ch" => some (.int g.triggerChannel)
  | "channel" => some (.int g.channel)
  | "enable_out_0" => some (.int g.outputs.1)
  | "enable_out_1" => some (.int g.outputs.2)
  | "card_mode" => some (.int g.modeCode)
  | "single_joined" => some (flagValue g.joined)
  | "sequence_mode" => some (flagValue g.sequenced)
  | "num_segments" => some (.int g.segments)
  | "sequence_segments" => some (.int g.sequenceSegments)
  | "sequence_loop" => some g.sequenceLoop
  | "clock_mode" => some (.int g.clockMode)
  | "state" => some (flagValue g.opened)
  | "full_buffer" => Stock.value? g.buffers
  | "full_buffer_pointer" => Stock.value? g.blocks
  | "max_pulse_length" => some (.int g.limits.maxLength)
  | "min_pulse_length" => some (.int g.limits.minLength)
  | "max_freq" => some (.int g.limits.maxFrequency)
  | "min_freq" => some (.int g.limits.minFrequency)
  | "test_flag" => g.flag
  | _ => none

end Generator

def generator : Instrument where
  State := Generator
  start := do
    let settings ← Bench.adjusted Factory.m4i6631
    let limits ← Limits.ofEntries (← Line.specific settings)
    let mode := (← get).mode
    return {
      limits, mode
      rehearsed := mode == .rehearsal
      amplitude1 := if mode == .rehearsal then 533 else 610 }
  commands := Generator.settings ++ Generator.declaring ++ Generator.playing ++ Generator.steps
  view := Generator.view

end EprBench.Waveform
