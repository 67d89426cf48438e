import EprBench.Factory
import EprBench.Scope.Basic
import EprBench.Value.Arithmetic

/-! Oscilloscopes that send whole records or a window of them. -/
namespace EprBench.Scope

open Line Value

structure Family where
  settings : Settings
  testsItself : Bool
  points : List Int
  acquisitions : List (String × String)
  acquisitionAnswers : List (String × String)
  noAverages : List (String × String)
  triggers : List (String × String)
  samples : String
  curveOrders : List String
  header : String
  impedance : String
  impedanceName : Value → Outcome Value
  levels : Bool
  lastPoint : Int
  recordLength : Int
  takeTimebase : Value → Act Scope Unit

namespace Family

variable (f : Family)

def invalid : ChannelTexts := {}
def asked : ChannelTexts := { unknown := "Incorrect channel is given" }
def plainTexts : ChannelTexts := { unknown := "Invalid channel", beyond := "Invalid channel" }
def triggerTexts : ChannelTexts := ⟨"Invalid trigger channel is given", "Invalid trigger channel is given",
  "Invalid channel is given", "Invalid trigger channel is given"⟩
def levelTexts : ChannelTexts := { unknown := "Incorrect channel is given", unknownReason := "Invalid trigger channel is given" }

def chan (n : Int) : String := "CH" ++ Decimal.intText n

/-! ### Acquisition -/

def askLength : Act Scope Int := askInt "HORizontal:RECOrdlength?"

def recordCommand : Command Scope :=
  .variadic "oscilloscope_record_length" fun
    | [] => do if ← isLive then return .int (← askLength) else return .int (← get).recordLength
    | [v] => silent do
      let n ← nearestSetting (← v.toInt) f.points "record length"
      modify fun o => { o with recordLength := n }
      tell ("HORizontal:RECOrdlength " ++ Decimal.intText n)
    | _ => refuse "Invalid argument" "Invalid record length argument"

def window (options : Options) : Act Scope Value :=
  Act.rescue (· == .noKey) (silent take) fun _ => ask
where
  take : Act Scope Unit := do
    let first ← (← entry options "start").toInt
    let last ← (← entry options "stop").toInt
    if ← isLive then
      let n ← askLength
      if last > n || first > n then Bench.stop "Invalid window"
      send (.text ("DATa:STARt " ++ Decimal.intText first))
      send (.text ("DATa:STOP " ++ Decimal.intText last))
  ask : Act Scope Value := do
    if ← isLive then
      let first ← askInt "DATa:STARt?"
      return .tuple [.int first, .int (← askInt "DATa:STOP?")]
    else return .tuple [1, .int f.lastPoint]

def acquisition : Act Scope Value := do
  return nameOf f.acquisitionAnswers (← query "ACQuire:MODe?").display

def takeAcquisition (v : Value) : Act Scope Unit := do
  match f.acquisitions.lookup v.display with
  | some word => tell ("ACQuire:MODe " ++ word)
  | none => forbid "Invalid acquisition type"

def averages : List Int := [2, 4, 8, 16, 32, 64, 128, 256, 512]

def takeAverages (v : Value) : Act Scope Unit := do
  let n ← nearestSetting (← v.toInt) averages "number of averages"
  if ← isLive then
    let kind ← f.acquisition
    if kind.isText "Average" then send (.text ("ACQuire:NUMAVg " ++ Decimal.intText n))
    else
      match f.noAverages.lookup kind.display with
      | some words => Bench.message words
      | none => return

def resolution : Act Scope Float := do
  if ← isLive then
    timeResolution (return Decimal.ofInt (← askLength)) (askReal "HORizontal:SCAle?")
  else timeResolution (return Decimal.ofInt (← get).recordLength) (return 100)

def start : Act Scope Unit := do
  if ← isLive then
    let _ ← query "*ESR?"
    send "ACQuire:STATE RUN;:ACQuire:STOPAfter SEQ"
    let _ ← query "*OPC?"
    Bench.message "Acquisition completed"

def preamble (c : Value) : Act Scope Value := do
  let n ← channel invalid c
  if ← isLive then
    send (.text ("DATa:SOUrce " ++ chan n))
    query (.text s!"{f.header}?")
  else return countUp 21

def curve (c : Value) : Act Scope Value := do
  let n ← channel plainTexts c
  if ← isLive then
    send (.text ("DATa:SOUrce " ++ chan n))
    f.curveOrders.forM fun order => send (.text order)
    let samples ← queryBlock f.samples "CURVe?"
    let reference ← askReal s!"{f.header}:YOFf?"
    let step ← askReal s!"{f.header}:YMUlt?"
    let origin ← askReal s!"{f.header}:YZEro?"
    return row (← volts reference step origin samples)
  else return countUp f.lastPoint

/-! ### Time base -/

def sendTimebase (number : Int) (perSecond : Int) : Act Scope Unit :=
  tell (withReal "HORizontal:SCAle " (Decimal.ofQuotient number perSecond))

def nearestUsed : String := "Desired timebase cannot be set, the nearest available value is used"

/-- Time bases of 1, 2 and 4 in each decade from a nanosecond to ten seconds, in nanoseconds. -/
def nanoseconds : List Int :=
  (List.range 10).flatMap (fun k => [(tenTo k : Int), 2 * tenTo k, 4 * tenTo k]) ++ [10000000000]

def unitNanoseconds : List (String × Int) := [("s", 1000000000), ("ms", 1000000), ("us", 1000), ("ns", 1)]

def takeWholeTimebase (v : Value) : Act Scope Unit := do
  let words ← v.pieces ' '
  match unitNanoseconds.lookup (← pick words 1) with
  | none => refuse "Incorrect dimension" "Incorrect timebase dimension"
  | some k =>
    let wanted := k * (← intOfText (← pick words 0))
    let n := nearestOf wanted nanoseconds
    if n != wanted then remark nearestUsed
    sendTimebase n 1000000000

def steps : List Int := [1, 2, 4, 10, 20, 40, 100, 200, 400, 1000]

def largerUnit : String → Option String
  | "ns" => some "us"
  | "us" => some "ms"
  | "ms" => some "s"
  | _ => none

def settled (n : Int) (unit : String) : Int × String :=
  let n := if n > 40 && unit == "s" then 40 else n
  match largerUnit unit with
  | some larger => if n == 1000 then (1, larger) else (n, unit)
  | none => (n, unit)

def isNearEighty (words : List String) : Outcome Bool := do
  if (← pick words 1) == "ns" then
    let x ← realOfText (← pick words 0)
    return x ≥ 60 && x ≤ 90
  else return false

def takeSteppedTimebase (v : Value) : Act Scope Unit := do
  let words ← v.pieces ' '
  let nearEighty ← if ← isLive then liftM (isNearEighty words) else pure false
  if nearEighty then
    sendTimebase 80 1000000000
    Bench.message nearestUsed
  else
    let wanted ← intOfText (← pick words 0)
    let (n, unit) := settled (nearestOf wanted steps) (← pick words 1)
    if n != wanted then remark nearestUsed
    match unitNanoseconds.lookup unit with
    | some k => sendTimebase n (1000000000 / k)
    | none => refuse "Incorrect timebase" "Invalid timebase argument"

/-! ### Channels -/

def takeSensitivity (c v : Value) : Act Scope Unit := do
  match ← amountIn voltUnits v with
  | (_, none) => refuse "Incorrect scaling factor" "Incorrect sensitivity argument"
  | (x, some k) =>
    let o ← get
    if !(x / k ≥ o.sensitivityMin && x / k ≤ o.sensitivityMax) then forbid "Incorrect sensitivity range"
    let n ← channel invalid c
    tell (withReal s!"{chan n}:SCAle " (x / k))

def takeOffset (c v : Value) : Act Scope Unit := do
  match ← amountIn voltUnits v with
  | (_, none) => refuse "Incorrect scaling factor" "Incorrect offset argument"
  | (x, some k) =>
    let n ← channel invalid c
    tell (withReal s!"{chan n}:OFFSet " (x / k))

def checkFirst (c : Value) (ok : Bool) (reason : String) : Act Scope Unit := do
  if !(← isLive) then
    ensure (channelNumbers.lookup c.display).isSome "Invalid channel is given"
    ensure ok reason

def takeCoupling (c v : Value) : Act Scope Unit := do
  checkFirst c (v.display == "AC" || v.display == "DC") "Invalid coupling is given"
  let n ← channel invalid c
  tell s!"{chan n}:COUPling {v.display}"

def takeImpedance (c v : Value) : Act Scope Unit := do
  let words := [("1 M", "MEG"), ("50", "FIFty")]
  checkFirst c (words.lookup v.display).isSome "Invalid impedance is given"
  let n ← channel invalid c
  tell s!"{chan n}:{f.impedance} {(words.lookup v.display).getD v.display}"

/-! ### Trigger -/

def takeTriggerMode (v : Value) : Act Scope Unit := do
  match v.display with
  | "Auto" => tell "TRIGger:A:MODe AUTO"
  | "Normal" => tell "TRIGger:A:MODe NORMal"
  | _ => forbid "Incorrect trigger mode is given"

def takeTriggerChannel (v : Value) : Act Scope Unit := do
  let source ← match f.triggers.lookup v.display with
    | some word => pure word
    | none => do pure (chan (← channel triggerTexts v))
  tell ("TRIGger:A:EDGE:SOUrce " ++ source)

def level (v : Value) : Act Scope (Option Float) := do
  if !(← v.differs "ECL") then return none
  if !(← v.differs "TTL") then return none
  let words ← v.pieces ' '
  if ← isLive then
    let x ← realOfText (← pick words 0)
    match voltUnits.lookup (← pick words 1) with
    | some k => return some (x / k)
    | none => Bench.stop "Invalid dimension"
  else
    ensure (voltUnits.lookup (← pick words 1)).isSome "Incorrect dimension"
    return none

def takeLevel (c v : Value) : Act Scope Unit := do
  let x ← level v
  let place ← if f.levels then do pure (":" ++ chan (← channel triggerTexts c)) else pure ""
  if ← isLive then
    match x with
    | some x => send (.text (withReal s!"TRIGger:A:LEVel{place} " x))
    | none => throw .notAssigned

def askLevel (c : Value) : Act Scope Value := do
  let place ← if f.levels then do pure (":" ++ chan (← channel levelTexts c)) else pure ""
  Line.answer (return .float (← askReal s!"TRIGger:A:LEVel{place}?")) (.float 0)

/-! ### The instruments -/

def takeHorizontal (v : Value) : Act Scope Unit := do
  match ← amountIn timeUnits v with
  | (_, none) => forbid "Incorrect horizontal offset"
  | (x, some k) => tell (withReal "HORizontal:DELay:TIMe " (x / k))

def askHorizontal : Act Scope Value := do
  return .float (Decimal.roundPlaces ((← askReal "HORizontal:DELay:TIMe?") * 1000000) 3)

def commands : List (Command Scope) := [
  identity "oscilloscope_name",
  { name := "oscilloscope_define_window", takesAnyName := true, run := fun given => f.window given.named },
  f.recordCommand,
  property "oscilloscope_acquisition_type" f.acquisition "Normal" f.takeAcquisition "Invalid acquisition type argument",
  property "oscilloscope_number_of_averages" (return .int (← askInt "ACQuire:NUMAVg?")) 2 f.takeAverages
    "Invalid number of averages argument",
  property "oscilloscope_timebase" (return .float ((← askReal "HORizontal:SCAle?") * 1000000)) 100 f.takeTimebase
    "Invalid timebase argument",
  .plain "oscilloscope_time_resolution" (return .float (← resolution)),
  .plain "oscilloscope_start_acquisition" (silent start),
  .unary "oscilloscope_preamble" "channel" f.preamble,
  plainOrder "oscilloscope_stop" "ACQuire:STATE STOP",
  plainOrder "oscilloscope_run" "ACQuire:STATE RUN",
  .unary "oscilloscope_get_curve" "channel" f.curve,
  channelProperty "oscilloscope_sensitivity"
    (channelQuestion asked (fun n => s!"{chan n}:SCAle?") millivolts (.float 0.1)) takeSensitivity
    (.refused "Incorrect sensitivity argument"),
  channelProperty "oscilloscope_offset"
    (channelQuestion asked (fun n => s!"{chan n}:OFFSet?") millivolts (.float 0.1)) takeOffset
    (.refused "Incorrect offset argument"),
  property "oscilloscope_horizontal_offset" askHorizontal (.float 10) takeHorizontal
    "Incorrect horizontal offset argument",
  channelProperty "oscilloscope_coupling" (channelQuestion asked (fun n => s!"{chan n}:COUPling?") .ok "AC")
    takeCoupling (.refused "Invalid coupling argument"),
  channelProperty "oscilloscope_impedance"
    (channelQuestion asked (fun n => s!"{chan n}:{f.impedance}?") f.impedanceName "1 M") f.takeImpedance
    (.refused "Invalid impedance argument"),
  property "oscilloscope_trigger_mode" (query "TRIGger:A:MODe?") "Normal" takeTriggerMode
    "Incorrect trigger mode argument",
  property "oscilloscope_trigger_channel" (query "TRIGger:A:EDGE:SOUrce?") "CH1" f.takeTriggerChannel
    "Invalid trigger channel argument",
  channelProperty "oscilloscope_trigger_low_level" f.askLevel f.takeLevel (.refused "Invalid trigger level argument"),
  rawCommand "oscilloscope_command",
  rawQuestion "oscilloscope_query"]

def greet : Act Link Unit := do
  send "*CLS"
  if f.testsItself then selfTest toInt

def ready : Work Scope := do
  let settings ← Bench.adjusted f.settings
  let line ← parameters settings
  let es ← specific settings
  let channels ← intOfText (← setting es "analog_channels")
  let sensitivityMin ← realSetting es "sensitivity_min"
  let sensitivityMax ← realSetting es "sensitivity_max"
  let link ← connect { mode := (← get).mode, line, lostCommand := "No connection", lostQuestion := "No connection" }
    [⟨"ethernet", reach, f.greet, unreachable⟩]
  return { link, channels, sensitivityMin, sensitivityMax, recordLength := f.recordLength }

def instrument : Instrument where
  State := Scope
  view := linkView
  start := f.ready
  commands := f.commands ++ rowCommands f.samples ++ lineCommands

end Family

def tds3000 : Family where
  settings := Factory.tektronix3000
  testsItself := false
  points := [500, 10000]
  acquisitions := [("Normal", "SAM"), ("Average", "AVE"), ("Peak", "PEAK")]
  acquisitionAnswers := [("Normal", "SAM"), ("Average", "AVE"), ("Peak", "PEAK")]
  noAverages := [("Peak", "Your are in PEAK mode")]
  triggers := [("Ext", "EXT"), ("Ext10", "EXT10"), ("Line", "LINE")]
  samples := "h"
  curveOrders := ["DATa:ENCdg RIBinary", "DATa:WIDth 2"]
  header := "WFMPre"
  impedance := "IMPedance"
  impedanceName v := .ok (match v.display with
    | "MEG" => "1 M"
    | "FIF" => "50"
    | _ => .nothing)
  levels := false
  lastPoint := 10000
  recordLength := 10000
  takeTimebase := Family.takeWholeTimebase

def mso4000 : Family where
  settings := Factory.tektronix4000
  testsItself := true
  points := [1000, 10000, 100000, 1000000, 10000000]
  acquisitions := [("Normal", "SAM"), ("Average", "AVE"), ("Hres", "HIR"), ("Peak", "PEAK")]
  acquisitionAnswers := [("Normal", "SAMPLE"), ("Average", "AVERAGE"), ("Hres", "HIRES"), ("Peak", "PEAKDETECT")]
  noAverages := [("Hres", "Your are in HRES mode"), ("Peak", "Your are in PEAK mode")]
  triggers := [("Ext", "EXTernal"), ("Line", "LINE")]
  samples := "b"
  curveOrders := ["DATa:ENCdg RIBinary"]
  header := "WFMOutpre"
  impedance := "TERmination"
  impedanceName v := do
    let x ← v.toReal
    return if x == 1000000 then "1 M" else if x == 50 then "50" else .nothing
  levels := true
  lastPoint := 1000
  recordLength := 2000
  takeTimebase := Family.takeSteppedTimebase

end EprBench.Scope
