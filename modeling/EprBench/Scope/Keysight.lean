import EprBench.Bench.Panel
import EprBench.Factory
import EprBench.Scope.Basic

/-! Oscilloscopes of the X series with a built-in waveform generator. -/
namespace EprBench.Scope

open Line Value

structure Series where
  settings : Settings
  points : List Int
  averagedPoints : List Int
  acquisitions : List (String × String)
  rehearsesLength : Bool := false
  terminates : Bool := true
  startQuestion : Bool := true
  startMessage : Bool := false
  measuresArea : Bool := false
  generators : Bool := false
  triggers : List (String × String)
  functions : List (String × String)
  arbitrary : Bool := true

namespace Series

variable (s : Series)

def invalid : ChannelTexts := {}
def incorrect : ChannelTexts := ⟨"Incorrect channel is given", "Incorrect channel is given", "Invalid channel is given",
  "Invalid channel is given"⟩
def mixed : ChannelTexts := ⟨"Incorrect channel is given", "Invalid channel is given", "Invalid channel is given",
  "Invalid channel is given"⟩
def spaced : ChannelTexts := ⟨"Incorrect channel is given", "Incorrect channel is given", "Invalid  channel is given",
  "Invalid  channel is given"⟩

def chan (n : Int) : String := "CHAN" ++ Decimal.intText n

/-! ### Acquisition -/

def acquisition : Act Scope Value := do
  return nameOf s.acquisitions (← query ":ACQuire:TYPE?").display

def takeAcquisition (v : Value) : Act Scope Unit := do
  match s.acquisitions.lookup v.display with
  | some word => tell (":ACQuire:TYPE " ++ word)
  | none => forbid "Invalid acquisition type"

def lengthFor (averaged : Bool) (wanted : Int) : Int :=
  nearestOf wanted (if averaged then s.averagedPoints else s.points)

def takeLength (v : Value) : Act Scope Unit := do
  let wanted ← v.toInt
  if ← isLive then
    let averaged := (← s.acquisition).isText "Average"
    let n ← nearestSetting wanted (if averaged then s.averagedPoints else s.points) "record length"
    send (.text (":WAVeform:POINts " ++ Decimal.intText n))
  else if s.rehearsesLength then
    modify fun o => { o with recordLength := s.lengthFor true wanted }

def takeAverages (v : Value) : Act Scope Unit := do
  let n ← v.toInt
  if !(n ≥ 2 && n ≤ 65536) then refuse "Invalid number of averages" "Incorrect number of averages"
  if ← isLive then
    match ← s.acquisition with
    | .text "Average" => send (.text (":ACQuire:COUNt " ++ Decimal.intText n))
    | .text "Normal" => Bench.message "Your are in NORM mode"
    | .text "Hres" => Bench.message "Your are in HRES mode"
    | .text "Peak" => Bench.message "Your are in PEAK mode"
    | _ => return

def takeRange (v : Value) : Act Scope Unit := do
  match ← amountIn timeUnits v with
  | (_, none) => refuse "Incorrect timebase" "Incorrect timebase argument"
  | (x, some k) =>
    let o ← get
    if !(x / k ≥ o.rangeMin && x / k ≤ o.rangeMax) then forbid "Incorrect timebase range"
    tell (withReal ":TIMebase:RANGe " (x / k))

def askLength : Act Scope Int := askInt ":WAVeform:POINts?"

/-- In microseconds. -/
def resolution : Act Scope Float := do
  if ← isLive then
    timeResolution (return Decimal.ofInt (← askLength)) (askReal ":TIMebase:RANGe?")
  else timeResolution (return Decimal.ofInt (← get).recordLength) (return 100)

def start : Act Scope Unit := do
  if ← isLive then
    send ":WAVeform:FORMat WORD"
    let digitize := "*ESR?;:DIGitize;*OPC?"
    if s.startQuestion then
      let _ ← query (.text digitize)
    else send (.text digitize)
    if s.startMessage then Bench.message "Acquisition completed"

def runStop : Act Scope Unit := do
  if ← isLive then
    send ":RUN"
    Bench.sleep 0.5
    send ":STOP"

/-! ### Curves -/

def preamble (c : Value) : Act Scope Value := do
  let n ← channel invalid c
  if ← isLive then
    send (.text (":WAVeform:SOURce " ++ chan n))
    return .floatRow (← queryNumbers ":WAVeform:PREamble?")
  else return countUp 10

def fetch (n : Int) : Act Scope (List Float) := do
  send (.text (":WAVeform:SOURce " ++ chan n))
  let samples ← queryBlock "H" ":WAVeform:DATA?"
  let told := (← queryNumbers ":WAVeform:PREamble?").toList
  let step ← pick told 7
  let origin ← pick told 8
  let reference ← pick told 9
  volts reference step origin samples

def area (xs : List Float) : Act Scope Float := do
  let total := Quantity.sum ((← get).window.cut xs)
  return total * (1e-6 * (← resolution))

def presented (want : Value) (curve : Value) (xs : List Float) : Act Scope Value := do
  if ← want.equals (.bool false) then return curve
  else if ← want.equals (.bool true) then return .float (← area xs)
  else if ← want.equals "Both" then
    let a ← area xs
    let step := 1e-6 * (← resolution)
    let times := (List.range xs.length).map fun (i : Nat) => Decimal.ofInt i * step
    return .tuple [row times, curve, .float a]
  else return .nothing

def curve (c want : Value) : Act Scope Value := do
  let n ← channel invalid c
  if ← isLive then
    let xs ← fetch n
    presented want (row xs) xs
  else
    let length := (← get).recordLength
    presented want (countUp length) ((List.range length.toNat).map fun (i : Nat) => Decimal.ofInt i)

/-! ### Channels -/

def takeSensitivity (c v : Value) : Act Scope Unit := do
  match ← amountIn voltUnits v with
  | (_, none) => refuse "Incorrect scaling factor" "Incorrect sensitivity argument"
  | (x, some k) =>
    let o ← get
    if !(x / k ≥ o.sensitivityMin && x / k ≤ o.sensitivityMax) then forbid "Incorrect sensitivity range"
    let n ← channel invalid c
    tell (withReal s!":{chan n}:SCALe " (x / k))

def takeOffset (c v : Value) : Act Scope Unit := do
  match ← amountIn voltUnits v with
  | (_, none) => refuse "Incorrect scaling factor" "Incorrect offset argument"
  | (x, some k) =>
    let n ← channel mixed c
    tell (withReal s!":{chan n}:OFFSet " (x / k))

/-- Without a channel of that name there is no answer. -/
def askOffset (c : Value) : Act Scope Value := do
  if (← isLive) && (channelNumbers.lookup c.display).isNone then return .nothing
  channelQuestion incorrect (fun n => s!":{chan n}:OFFSet?") millivolts (.float (0.1 * 1000)) c

def takeCoupling (c v : Value) : Act Scope Unit := do
  let n ← channel mixed c
  if !(← isLive) then ensure (v.display == "AC" || v.display == "DC") "Invalid coupling is given"
  tell s!":{chan n}:COUPling {v.display}"

def takeImpedance (c v : Value) : Act Scope Unit := do
  if ← isLive then
    let word ← match v.display with
      | "1 M" => pure "ONEMeg"
      | "50" => do
        if !s.terminates then Bench.message "Incorrect impedance"
        pure (if s.terminates then "FIFTy" else "ONEMeg")
      | other => pure other
    let n ← channel mixed c
    send (.text s!":{chan n}:IMPedance {word}")
  else
    let _ ← channel mixed c
    ensure (v.display == "1 M" || (s.terminates && v.display == "50")) "Invalid impedance is given"

/-! ### Trigger -/

def takeTriggerMode (v : Value) : Act Scope Unit := do
  match v.display with
  | "Auto" => tell ":TRIGger:SWEep AUTO"
  | "Normal" => tell ":TRIGger:SWEep NORMal"
  | _ =>
    let text := "Incorrect trigger mode is given"
    if ← isLive then Bench.message text else throw (.refused text)

def triggerTexts : ChannelTexts := ⟨"Incorrect trigger channel is given", "Invalid trigger channel is given",
  "Invalid trigger channel is given", "Invalid trigger channel is given"⟩

def takeTriggerChannel (v : Value) : Act Scope Unit := do
  let source ← match s.triggers.lookup v.display with
    | some word => pure word
    | none => do pure (chan (← channel triggerTexts v))
  tell (":TRIGger:EDGE:SOURce " ++ source)

def takeLevel (c v : Value) : Act Scope Unit := do
  let x ← v.toReal
  let n ← channel spaced c
  tell (withReal ":TRIGger:LEVel:LOW " x ++ ", " ++ chan n)

/-! ### Commands of the oscilloscope -/

def readPanel : Act Scope Unit := do
  Panel.takeWindow (← Panel.read) fun f (o : Scope) => { o with window := f o.window }

def windowLength : Act Scope Value := do
  let w := (← get).window
  return .float (Decimal.ofInt (w.right - w.left) * (1000 * (← resolution)))

def inMicroseconds (question : String) : Act Scope Value := do return .float ((← askReal question) * 1000000)

def takeHorizontal (v : Value) : Act Scope Unit := do
  match ← amountIn timeUnits v with
  | (_, none) => refuse "Incorrect horizontal offset" "Incorrect horizontal offset scaling"
  | (x, some k) => tell (withReal ":TIMebase:DELay " (x / k))

def recordCommand : Command Scope :=
  .variadic "oscilloscope_record_length" fun
    | [] => do if ← isLive then return .int (← askLength) else return .int (← get).recordLength
    | [v] => silent (s.takeLength v)
    | _ => refuse "Invalid argument" "Invalid record length argument"

def scopeCommands : List (Command Scope) := [
  identity "oscilloscope_name",
  s.recordCommand,
  property "oscilloscope_acquisition_type" s.acquisition "Norm" s.takeAcquisition "Invalid acquisition type argument",
  property "oscilloscope_number_of_averages" (return .int (← askInt ":ACQuire:COUNt?")) 2 s.takeAverages
    "Invalid number of averages argument",
  property "oscilloscope_timebase" (inMicroseconds ":TIMebase:RANGe?") 100 takeRange "Invalid timebase argument",
  .plain "oscilloscope_time_resolution" (return .float (← resolution)),
  .plain "oscilloscope_start_acquisition" (silent s.start),
  .unary "oscilloscope_preamble" "channel" preamble,
  plainOrder "oscilloscope_stop" ":STOP",
  plainOrder "oscilloscope_run" ":RUN",
  .plain "oscilloscope_run_stop" (silent runStop),
  { name := "oscilloscope_get_curve"
    parameters := [.needed "channel", .withDefault "integral" (.bool false)]
    run := fun given => match given.values with
      | [c, want] => curve c want
      | _ => throw .wrongType },
  channelProperty "oscilloscope_sensitivity"
    (channelQuestion incorrect (fun n => s!":{chan n}:SCALe?") millivolts (.float (0.1 * 1000)))
    takeSensitivity (.refused "Incorrect sensitivity argument"),
  channelProperty "oscilloscope_offset" askOffset takeOffset (.refused "Incorrect offset argument"),
  property "oscilloscope_horizontal_offset" (inMicroseconds ":TIMebase:DELay?") "10 ms" takeHorizontal
    "Incorrect horizontal offset argument",
  channelProperty "oscilloscope_coupling"
    (channelQuestion incorrect (fun n => s!":{chan n}:COUPling?") .ok "AC") takeCoupling .noName,
  channelProperty "oscilloscope_impedance"
    (channelQuestion incorrect (fun n => s!":{chan n}:IMPedance?") .ok 1000000) s.takeImpedance
    (.refused "Invalid impedance argument"),
  property "oscilloscope_trigger_mode" (query ":TRIGger:SWEep?") "Normal" takeTriggerMode
    "Incorrect trigger mode argument",
  property "oscilloscope_trigger_channel" (query ":TRIGger:EDGE:SOURce?") "CH1" s.takeTriggerChannel
    "Invalid trigger channel argument",
  channelProperty "oscilloscope_trigger_low_level"
    (channelQuestion spaced (fun n => s!":TRIGger:LEVel:LOW? {chan n}") .ok (.float 0)) takeLevel
    (.refused "Invalid trigger level argument"),
  rawCommand "oscilloscope_command",
  rawQuestion "oscilloscope_query",
  .plain "oscilloscope_window" windowLength,
  .plain "oscilloscope_read_settings" (silent readPanel)]

def areaCommand : Command Scope :=
  .unary "oscilloscope_area" "channel"
    (channelQuestion invalid (fun n => s!":MEASure:AREa? DISPlay , {chan n}")
      (fun v => do return .float (← v.toReal)) (.float 0.001))

/-! ### The generator -/

def generator (v : Value) : Act Scope String := do
  if !s.generators then return ":WGEN"
  else if ← v.isOneOf ["1", "2"] then return ":WGEN" ++ v.display
  else forbid "Incorrect wave generator channel"

def ofGenerator (name : String) (run : String → List Value → Act Scope Value) : Command Scope :=
  if s.generators then
    { name := name, takesMore := true, byName := [.withDefault "channel" "1"]
      run := fun given => match given.values with
        | [c] => do run (← s.generator c) given.more
        | _ => throw .wrongType }
  else .variadic name (run ":WGEN")

def ofGeneratorFixed (name : String) (parameters : List String) (run : String → List Value → Act Scope Value) :
    Command Scope :=
  { name := name
    parameters := parameters.map .needed ++ if s.generators then [.withDefault "channel" "1"] else []
    run := fun given => do
      match s.generators, given.values.getLast? with
      | true, some c => run (← s.generator c) given.values.dropLast
      | _, _ => run ":WGEN" given.values }

def generatorProperty (name : String) (ask : String → Act Scope Value) (rehearsal : Value)
    (take : String → Value → Act Scope Unit) (reason : String) : Command Scope :=
  s.ofGenerator name fun g vs =>
    match vs with
    | [] => Line.answer (ask g) rehearsal
    | [v] => silent (take g v)
    | _ => refuse "Invalid argument" reason

def frequencyUnits : List (String × Float) := [("MHz", 1000000), ("kHz", 1000), ("Hz", 1), ("mHz", 0.001)]

def takeFrequency (g : String) (v : Value) : Act Scope Unit := do
  match ← amountIn frequencyUnits v with
  | (_, none) => forbid "Incorrect frequency scaling"
  | (x, some k) =>
    let o ← get
    if !(x * k ≥ o.frequencyMin && x * k ≤ o.frequencyMax) then forbid "Incorrect frequency range"
    tell (withReal s!"{g}:FREQuency " (x * k))

def takeVoltage (part text reason : String) (g : String) (v : Value) : Act Scope Unit := do
  match ← amountIn voltUnits v with
  | (_, none) => refuse text reason
  | (x, some k) => tell (withReal s!"{g}{part} " (x / k))

def takeWidth (g : String) (v : Value) : Act Scope Unit := do
  match ← amountIn timeUnits v with
  | (_, none) => refuse "Incorrect width" "Incorrect width argument"
  | (x, some k) => tell (withReal s!"{g}:FUNCtion:PULSe:WIDTh " (x / k))

def pulseWidth (g : String) (vs : List Value) : Act Scope Value := do
  if ← isLive then
    if !(← query ":WGEN:FUNCtion?").isText "PULS" then Bench.stop "You are not in the pulse mode"
  match vs with
  | [] =>
    let colon := if s.generators then "" else ":"
    Line.answer (inMicroseconds s!"{g}{colon}FUNCtion:PULSe:WIDTh?") "350 us"
  | [v] => silent (takeWidth g v)
  | _ => refuse "Invalid argument" "Incorrect width argument"

def takeFunction (g : String) (v : Value) : Act Scope Unit := do
  match s.functions.lookup v.display with
  | some word => tell s!"{g}:FUNCtion {word}"
  | none => forbid "Invalid wave generator function"

/-- A rehearsal cannot tell which of two generators is meant. -/
def functionCommand : Command Scope :=
  let run (g : String) : List Value → Act Scope Value
    | [] => Line.answer (query (.text s!"{g}:FUNCtion?")) "Sin"
    | [v] => silent (s.takeFunction g v)
    | _ => refuse "Invalid argument" "Invalid wave generator function"
  if s.generators then
    { name := "wave_gen_function", takesMore := true, byName := [.withDefault "channel" "1"]
      run := fun given => do
        if !(← isLive) then throw .notAssigned
        match given.values with
        | [c] => run (← s.generator c) given.more
        | _ => throw .wrongType }
  else .variadic "wave_gen_function" (run ":WGEN")

def takeLoad (g : String) (v : Value) : Act Scope Unit := do
  match v.display with
  | "1 M" => tell s!"{g}:OUTPut:LOAD ONEMeg"
  | "50" => tell s!"{g}:OUTPut:LOAD FIFTy"
  | _ => forbid "Incorrect impedance"

def order (name command : String) : Command Scope :=
  s.ofGeneratorFixed name [] fun g _ => silent (tell s!"{g}{command}")

def allInRange : List Value → Outcome Bool
  | [] => .ok true
  | x :: rest => do
    if (← x.ge (.float (-1))) && (← x.le (.float 1)) then allInRange rest else return false

def takeShape (g : String) (points : Value) : Act Scope Unit := do
  if (← points.size) == 0 then forbid "Incorrect list of points"
  let xs ← points.items
  if !(← allInRange xs) then forbid "Incorrect points are used"
  tell (s!"{g}:ARBitrary:DATA " ++ ", ".intercalate (xs.map display))

def switches : List (String × Int) := [("On", 1), ("Off", 0)]

/-- A single generator is asked by a number that it does not have. -/
def askInterpolation (g : String) : Act Scope Value := do
  if !s.generators then throw .noName
  return nameOf switches (← askInt s!"{g}:ARBitrary:INTerpolate?")

def takeInterpolation (g : String) (v : Value) : Act Scope Unit := do
  match switches.lookup v.display with
  | some n => tell s!"{g}:ARBitrary:INTerpolate {Decimal.intText n}"
  | none => forbid "Incorrect interpolation control setting is given"

def generatorCommands : List (Command Scope) := [
  identity "wave_gen_name",
  s.generatorProperty "wave_gen_frequency" (fun g => return .float (← askReal s!"{g}:FREQuency?")) 500 takeFrequency
    "Incorrect wave generator channel",
  s.ofGenerator "wave_gen_pulse_width" s.pulseWidth,
  s.functionCommand,
  s.generatorProperty "wave_gen_amplitude" (fun g => do millivolts (← query (.text s!"{g}:VOLTage?"))) "500 mV"
    (takeVoltage ":VOLTage" "Incorrect amplitude" "Incorrect amplitude scaling") "Incorrect amplitude argument",
  s.generatorProperty "wave_gen_offset" (fun g => do millivolts (← query (.text s!"{g}:VOLTage:OFFSet?"))) (.float 0)
    (takeVoltage ":VOLTage:OFFSet" "Incorrect offset voltage" "Incorrect offset voltage scaling")
    (if s.generators then "Incorrect offset voltage argument" else "Incorrect offset voltage scaling"),
  s.generatorProperty "wave_gen_impedance" (fun g => query (.text s!"{g}:OUTPut:LOAD?")) "1 M" takeLoad
    "Invalid impedance argument",
  s.order "wave_gen_run" ":OUTPut 1",
  s.order "wave_gen_stop" ":OUTPut 0",
  rawCommand "wave_gen_command",
  rawQuestion "wave_gen_query"]

def arbitraryCommands : List (Command Scope) := [
  s.ofGeneratorFixed "wave_gen_arbitrary_function" ["list"] fun g vs =>
    match vs with
    | [points] => silent (takeShape g points)
    | _ => throw .wrongType,
  s.generatorProperty "wave_gen_arbitrary_interpolation" s.askInterpolation "Off" takeInterpolation "Invalid argument",
  s.order "wave_gen_arbitrary_clear" ":ARBitrary:DATA:CLEar",
  s.ofGeneratorFixed "wave_gen_arbitrary_points" [] fun g _ =>
    Line.answer (return .int (← askInt s!"{g}:ARBitrary:DATA:ATTRibute:POINts?")) 10]

/-! ### The instruments -/

/-- Opens the line. Whatever goes wrong ends the whole program at once. -/
def connect (link : Link) : Work Link := do
  if link.mode == .rehearsal || link.line.interface != "ethernet" then return link
  let greet : Act Link Unit := do
    reach link.line
    Act.rescue (fun _ => true) (send "*CLS") fun _ => do
      Bench.message "No connection"
      Bench.note .clear
      throw .stopped
  let guarded := Act.rescue (fun _ => true) greet fun _ => do
    Bench.message "No connection"
    throw .ended
  return (← guarded.runFrom { link with connected := some true }).2

def ready : Work Scope := do
  let settings ← Bench.adjusted s.settings
  let line ← parameters settings
  let es ← specific settings
  let channels ← intOfText (← setting es "analog_channels")
  let rangeMax ← realSetting es "timebase_max"
  let rangeMin ← realSetting es "timebase_min"
  let sensitivityMin ← realSetting es "sensitivity_min"
  let sensitivityMax ← realSetting es "sensitivity_max"
  let frequencyMax ← realSetting es "wave_gen_freq_max"
  let frequencyMin ← realSetting es "wave_gen_freq_min"
  let link ← connect {
    mode := (← get).mode
    line := line
    lostCommand := "No connection"
    lostQuestion := "No connection" }
  return { link, channels, sensitivityMin, sensitivityMax, rangeMin, rangeMax, frequencyMin, frequencyMax
           recordLength := 2000 }

def instrument : Instrument where
  State := Scope
  start := s.ready
  commands := s.scopeCommands ++ (if s.measuresArea then [areaCommand] else []) ++
    s.generatorCommands ++ (if s.arbitrary then s.arbitraryCommands else []) ++ rowCommands "H" ++ lineCommands
  view
    | o, "win_left" => some (.int o.window.left)
    | o, "win_right" => some (.int o.window.right)
    | o, "test_record_length" => if o.link.mode == .rehearsal then some (.int o.recordLength) else none
    | o, name => linkView o name

end Series

def commonFunctions : List (String × String) :=
  [("Sin", "SINusoid"), ("Sq", "SQUare"), ("Ramp", "RAMP"), ("Pulse", "PULSe"), ("DC", "DC"), ("Noise", "NOISe")]

def moreFunctions : List (String × String) :=
  commonFunctions ++ [("Sinc", "SINC"), ("ERise", "EXPRise"), ("EFall", "EXPFall"), ("Card", "CARDiac"),
    ("Gauss", "GAUSsian"), ("Arb", "ARBitrary")]

def commonPoints : List Int := [100, 250, 500, 1000, 2000, 5000, 10000, 20000, 50000, 100000, 200000, 500000]

def x2000 : Series where
  settings := Factory.keysight2000
  points := commonPoints
  averagedPoints := [100, 250, 500, 1000, 2500, 4000, 8000, 16000]
  acquisitions := [("Normal", "NORMal"), ("Average", "AVER"), ("Hres", "HRES"), ("Peak", "PEAK")]
  terminates := false
  startQuestion := false
  triggers := [("Ext", "EXTernal"), ("Line", "LINE"), ("WGen", "WGEN")]
  functions := commonFunctions
  arbitrary := false

def x3000 : Series where
  settings := Factory.keysight3000
  points := commonPoints
  averagedPoints := [100, 250, 500, 1000, 2000, 4000, 8000, 16000]
  acquisitions := [("Normal", "NORM"), ("Average", "AVER"), ("Hres", "HRES"), ("Peak", "PEAK")]
  rehearsesLength := true
  measuresArea := true
  triggers := [("Ext", "EXTernal"), ("Line", "LINE"), ("WGen", "WGEN")]
  functions := moreFunctions

def x4000 : Series where
  settings := Factory.keysight4000
  points := commonPoints ++ [1000000, 2000000, 4000000, 8000000]
  averagedPoints := [100, 250, 500, 1000, 2000, 4000, 8000, 16000]
  acquisitions := [("Normal", "NORMal"), ("Average", "AVER"), ("Hres", "HRES"), ("Peak", "PEAK")]
  startMessage := true
  generators := true
  triggers := [("Ext", "EXTernal"), ("Line", "LINE"), ("WGen1", "WGEN1"), ("WGen2", "WGEN2")]
  functions := moreFunctions

end EprBench.Scope
