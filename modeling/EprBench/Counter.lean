import EprBench.Factory
import EprBench.Line.Dialogue

/-! Frequency counters. -/
namespace EprBench.Counter

open Line Value

inductive Input where
  | chosen
  | fixed
  | missing
deriving BEq

structure Model where
  settings : Settings
  inputs : List (String × Input)
  asksSerial : Bool

namespace Model

variable (m : Model)

def number (channel : String) : String := channel.part (some 2) (some 3)

def input (channel : String) : Option Input := m.inputs.lookup channel

def has (channel : String) : Bool :=
  match m.input channel with
  | some i => i != .missing
  | none => false

def names : List (String × String) := (m.inputs.filter (·.2 != .missing)).map fun e => (e.1, e.1)

def impedances : List (String × Float) := [("1 M", 1000000), ("50", 50)]

/-! ### Measurements -/

def askFrequency (channel : String) : Act Link Value := do
  send (.text s!":FUNC 'FREQ {number channel}'")
  Bench.sleep 0.03
  let x ← askReal ":READ?"
  send ":INIT:CONT ON"
  return .float (x / 1000)

def askPeriod (channel : String) : Act Link Value := do
  return .float ((← askReal s!":MEASURE:PERiod? (@{number channel})") * 1000000)

def measured (measure : String → Act Link Value) (rehearsal : Value) (reason : String) (v : Value) : Act Link Value := do
  match ← v.choice m.names with
  | some channel => Line.answer (measure channel) rehearsal
  | none => refuse "Invalid argument" reason

/-! ### Inputs -/

/-- A property of an input: what is sent for a value, what is asked for, and what a fixed input has. -/
structure Feature where
  word : String
  what : String
  only : String
  fixedValue : Value
  rehearsal : Value
  toSend : Value → Option String
  allowed : Value → Bool
  read : Value → Outcome Value

def setFeature (f : Feature) (channel v : Value) : Act Link Unit := do
  let name := channel.display
  if ← isLive then
    if let some t := f.toSend v then
      match m.input name with
      | some .chosen => send (.text s!":INPut{number name}:{f.word} {t}")
      | some .fixed => Bench.message s!"The {f.what} for {name} is only {f.only}"
      | some .missing => Bench.message "Invalid channel"
      | none => return
  else
    ensure (m.has name) "Invalid channel is given"
    ensure (f.allowed v) s!"Invalid {f.what} is given"

def askFeature (f : Feature) (channel : Value) : Act Link Value := do
  let name := channel.display
  if ← isLive then
    match m.input name with
    | some .chosen => f.read (← query (.text s!":INPut{number name}:{f.word}?"))
    | some .fixed =>
      Bench.message s!"The {f.what} for {name} is only {f.only}"
      return f.fixedValue
    | some .missing =>
      Bench.message "Invalid channel"
      return .nothing
    | none => return .nothing
  else
    ensure (m.has name) "Invalid channel is given"
    return f.rehearsal

def feature (f : Feature) (vs : List Value) : Act Link Value :=
  match vs with
  | [channel, v] => silent (m.setFeature f channel v)
  | [channel] => m.askFeature f channel
  | _ => refuse "Invalid argument" s!"Incorrect {f.what} argument"

def impedance : Feature where
  word := "IMPedance"
  what := "impedance"
  only := "50 Ohm"
  fixedValue := "50"
  rehearsal := "1 M"
  toSend v := match v.display with
    | "1 M" => some "1000000"
    | "50" => some "50"
    | _ => none
  allowed v := (impedances.lookup v.display).isSome
  read v := do return nameOf impedances (← v.toReal)

def coupling : Feature where
  word := "COUPling"
  what := "coupling"
  only := "AC"
  fixedValue := "AC"
  rehearsal := "AC"
  toSend v := some v.display
  allowed v := v.display == "AC" || v.display == "DC"
  read v := .ok (.text v.display)

/-! ### Gate -/

def stopArms : List (String × String) :=
  [("Immediate", "IMMediate"), ("External", "EXTernal"), ("Timer", "TIMer"), ("Digits", "DIGits")]
def startArms : List (String × String) := stopArms.take 2

def arm (name word what : String) (table : List (String × String)) : Command Link :=
  property name (do return nameOf table (← query (.text s!":FREQuency:ARM:{word}:SOURce?")).display) "Immediate"
    (fun v => do
      match table.lookup v.display with
      | some t => tell s!":FREQuency:ARM:{word}:SOURce {t}"
      | none => forbid s!"Invalid {what} arm mode")
    "Invalid argument"

def takeDigits (v : Value) : Act Link Unit := do
  let n ← v.toInt
  if !(n ≥ 3 && n ≤ 15) then forbid "Invalid amount of digits"
  tell s!":FREQuency:ARM:STOP:DIGits {Decimal.intText n}"

def takeGateTime (v : Value) : Act Link Unit := do
  match ← amountIn [("ks", 1000), ("s", 1), ("ms", 0.001)] v with
  | (_, none) => forbid "Incorrect gate time"
  | (x, some factor) =>
    let t := x * factor
    if !(t ≥ 0.001 && t ≤ 1000) then forbid "Incorrect gate time range"
    tell (withReal ":FREQuency:ARM:STOP:TIMer " t)

/-! ### Expected frequency -/

def takeExpected (channel v : Value) : Act Link Unit := do
  let (x, factor) ← amountIn [("GHz", 1000000000), ("MHz", 1000000), ("kHz", 1000), ("Hz", 1)] v
  match factor with
  | none => forbid "Invalid argument"
  | some factor =>
    let name := channel.display
    if m.has name then tell (withReal s!":FREQuency:EXPected{number name} " (x * factor))
    else if (← isLive) && m.input name == some .missing then Bench.message "Invalid channel is given"
    else forbid "Invalid channel is given"

def askExpected (channel : Value) : Act Link Value := do
  let name := channel.display
  if !m.has name then forbid "Invalid channel is given"
  if ← isLive then
    if (← askInt s!":FREQuency:EXPected{number name}:AUTO?") == 0 then
      return .float (← askReal s!":FREQuency:EXPected{number name}?")
    Bench.message "No expected frequency is found"
  return .nothing

def commands : List (Command Link) := [
  identity "freq_counter_name",
  .unary "freq_counter_frequency" "channel" (m.measured askFrequency 10000 "Invalid channel"),
  .variadic "freq_counter_impedance" (m.feature impedance),
  .variadic "freq_counter_coupling" (m.feature coupling),
  arm "freq_counter_stop_mode" "STOP" "stop" stopArms,
  arm "freq_counter_start_mode" "START" "start" startArms,
  property "freq_counter_digits" (do return .int (← askInt ":FREQuency:ARM:STOP:DIGits?")) 10 takeDigits
    "Invalid argument",
  property "freq_counter_gate_time" (do return .float (← askReal ":FREQuency:ARM:STOP:TIMer?")) (.float 0.1) takeGateTime
    "Invalid argument",
  .variadic "freq_counter_expected_freq" fun
    | [channel, v] => silent (m.takeExpected channel v)
    | [channel] => m.askExpected channel
    | _ => forbid "Invalid argument",
  .unary "freq_counter_period" "channel" (m.measured askPeriod 10 "Invalid channel is given"),
  rawCommand "freq_counter_command",
  rawQuestion "freq_counter_query"] ++ lineCommands

def greet (level : Bool) : Act Link Unit := do
  for c in ["*CLS", "*SRE 0", "*ESE 0", ":FORMAT ASC"] ++ (if level then [":EVEN:LEV:REL 50"] else []) ++
      [":FREQ:EXP1:AUTO ON", ":FREQ:EXP2:AUTO ON", ":FREQ:EXP3:AUTO ON"] do
    send (.text c)

def instrument : Instrument where
  State := Link
  view := linkView
  start := do
    let settings ← Bench.adjusted m.settings
    let line ← parameters settings
    let _ ← specific settings
    connect { mode := (← get).mode, line, asks := m.asksSerial } [.gpib (greet false), .serial (greet true)]
  commands := m.commands

end Model

def agilent53131 : Model where
  settings := Factory.agilent53131
  inputs := [("CH1", .chosen), ("CH2", .chosen), ("CH3", .fixed)]
  asksSerial := false

def agilent53181 : Model where
  settings := Factory.agilent53181
  inputs := [("CH1", .chosen), ("CH2", .fixed), ("CH3", .missing)]
  asksSerial := true

/-! ### A counter that only talks -/

namespace Talker

def readMeasurement : Act Link Value := do
  needConnection (← theLink).lostQuestion
  Bench.note (.readUpTo 22)
  let told ← decoded (replyBytes (← Bench.nextReply))
  match realOfText (told.part (some 4) (some 19)) with
  | .ok x => return .float (x * 1000000)
  | .error _ => return .float 0

/-- The most digits are not known, so no number of digits from 9 on can be set. -/
def takeDigits (v : Value) : Act Link Unit := do
  let n ← v.toInt
  if n ≥ 9 then throw .noMember
  forbid "Invalid amount of digits"

def commands : List (Command Link) := [
  givenName "freq_counter_name",
  .unary "freq_counter_frequency" "channel" fun v => do
    if !(← v.equals "CH1") then refuse "Invalid argument" "Invalid channel"
    Line.answer readMeasurement 10000,
  property "freq_counter_digits" (return 9) 9 takeDigits "Invalid argument",
  rawCommand "freq_counter_command",
  rawQuestion "freq_counter_query",
  .plain "device_read" readMeasurement] ++ lineCommands

end Talker

def agilent5343 : Instrument where
  State := Link
  view := linkView
  start := do
    let settings ← Bench.adjusted Factory.agilent5343
    let line ← parameters settings
    let _ ← specific settings
    connect { mode := (← get).mode, line } [.gpib do
        for c in ["ST1", "T2", "SR3"] do send (.text c)]
      (Bench.stop s!"Such interface: {line.interface} is not available")
  commands := Talker.commands

end EprBench.Counter
