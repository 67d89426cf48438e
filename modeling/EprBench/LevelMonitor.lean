import EprBench.Factory
import EprBench.Line.Dialogue

/-! A monitor of liquid levels with two channels. The second channel may be given to a recondenser, which has
commands of its own. -/
namespace EprBench

namespace Text

def lowDigits (n : Nat) : List Char :=
  (if n % 2 = 1 then '1' else '0') :: if h : n / 2 = 0 then [] else lowDigits (n / 2)
termination_by n
decreasing_by omega

def binary (n : Int) : List Char :=
  (if n < 0 then ['-'] else []) ++ ['0', 'b'] ++ (lowDigits n.natAbs).reverse

def fromEnd (cs : List Char) (place : Nat) : Option Char := cs.reverse[place - 1]?

end Text

namespace LevelMonitor

open Line Value

structure Monitor where
  link : Link
  hasRecondenser : Bool
  onRecondenser : Bool := false

instance : Linked Monitor := ⟨Monitor.link, fun f m => { m with link := f m.link }⟩

inductive Channel where
  | level
  | recondenser

def Channel.check : Channel → Act Monitor Unit
  | .level => do ensure (!(← get).onRecondenser) "Second channel is used as HRC"
  | .recondenser => do ensure (← get).onRecondenser "Second channel is not used as HRC"

def askText (command : String) : Act Monitor Value := do return .text (← query (.text command)).display

def setting (name : String) (channel : Channel) (ask : Act Monitor Value) (rehearsal : Value)
    (take : Value → Act Monitor Unit) : Command Monitor :=
  .variadic name fun
    | [] => do
      if ← isLive then ask
      else
        channel.check
        return rehearsal
    | [v] => silent do
      take v
      if !(← isLive) then channel.check
    | _ => forbid "Invalid Argument"

def takeNamed (word : String) (table : List (String × String)) (reason : String) (v : Value) : Act Monitor Unit := do
  match table.lookup v.display with
  | some t => tell s!"{word} {t}"
  | none => forbid reason

/-! ### Channels -/

def takeChannel (v : Value) : Act Monitor Unit := do
  match ← v.choice [("1", "1"), ("2", "2")] with
  | none => forbid "Invalid channel"
  | some c =>
    tell s!"CHAN {c}"
    if !(← isLive) then
      modify fun m => { m with onRecondenser := if c == "1" then false else m.onRecondenser || m.hasRecondenser }

/-! ### Alarms -/

def askLevel (command : String) : Act Monitor Float := do
  let words ← (← askText command).pieces ' '
  realOfText (← pick words 0)

def takeAlarm (isHigh : Bool) (v : Value) : Act Monitor Unit := do
  let x := Decimal.roundPlaces (← v.toReal) 1
  if ← isLive then
    let (this, other) := if isHigh then ("high", "low") else ("low", "high")
    let length ← askLevel "LNGTH?"
    if !(if isHigh then x ≤ length else x < length) then
      Bench.stop s!"Specified {this} level alarm is higher than sensor length"
    let bound ← askLevel (if isHigh then "L-ALM?" else "H-ALM?")
    if !(if isHigh then x > bound else x < bound) then
      Bench.stop (s!"Specified {this} level alarm is " ++ (if isHigh then "lower" else "higher") ++ s!" than {other} level alarm")
    send (.text (withReal (if isHigh then "H-ALM " else "L-ALM ") x))
  else ensure (x ≥ 0 && x ≤ 500) ("Invalid " ++ (if isHigh then "high" else "low") ++ " alarm limit")

/-! ### Measurement -/

def isMarked (status : Int) (place : Nat) : Outcome Bool :=
  match Text.fromEnd (Text.binary status) place with
  | some digit => .ok (digit == '1')
  | none => .error .outOfRange

/-- Asks for the status until it has the mark. Every question takes one of the answers that are left, and an answer
that is not there is no status, so `count` is one more than there are answers. -/
def awaitMark (place : Nat) : Nat → Act Monitor Unit
  | 0 => return
  | count + 1 => do
    if !(← isMarked (← askInt "*STB?") place) then
      Bench.sleep 1
      awaitMark place count

def measure (v : Value) : Act Monitor Value := do
  match ← v.choice [("1", ("1", 1)), ("2", ("2", 3))] with
  | none => forbid "Invalid channel"
  | some (channel, place) =>
    if !(← isLive) then return .nothing
    send (.text s!"MEAS {channel}")
    awaitMark place ((← getThe Bench).replies.length + 1)
    send "*CLS"
    query (.text s!"MEAS? {channel}")

/-! ### Interval -/

def takeInterval (h m s : Value) : Act Monitor Unit := do
  let hours ← h.toInt
  let minutes ← m.toInt
  let seconds ← s.toInt
  if ← isLive then
    send (.text s!"INTVL {Decimal.intText hours}:{Decimal.intText minutes}:{Decimal.intText seconds}")
  else
    ensure (hours ≥ 0 && hours ≤ 99) "The interval hours parameter should be in the range of 0 to 99"
    ensure (minutes ≥ 0 && minutes ≤ 59) "The interval minutes parameter should be in the range of 0 to 59"
    ensure (seconds ≥ 0 && seconds ≤ 59) "The interval seconds parameter should be in the range of 0 to 59"
    Channel.level.check

/-! ### Recondenser -/

def takeNumber (word : String) (places : Nat) (min max : Float) (reason : String) (v : Value) : Act Monitor Unit := do
  let x := Decimal.roundPlaces (← v.toReal) places
  if !(← isLive) then ensure (x ≥ min && x ≤ max) reason
  tell (withReal word x)

def askHeater : Act Monitor Value := do
  return nameOf [("On", "ON"), ("Off", "OFF")] (← askText "HEAT?").display

def commands : List (Command Monitor) := [
  identity "level_monitor_name",
  property "level_monitor_select_channel" (askText "CHAN?") 1 takeChannel "Invalid Argument" "Invalid Argument",
  setting "level_monitor_boost_mode" .level (askText "BOOST?") "On"
    (takeNamed "BOOST" [("Off", "OFF"), ("On", "ON"), ("Smart", "SMART")] "Invalid boost mode is given"),
  setting "level_monitor_high_level_alarm" .level (askText "H-ALM?") "65 cm" (takeAlarm true),
  setting "level_monitor_low_level_alarm" .level (askText "L-ALM?") "1 cm" (takeAlarm false),
  .plain "level_monitor_sensor_length" (do
    if ← isLive then askText "LNGTH?"
    else
      Channel.level.check
      return "120 cm"),
  setting "level_monitor_sample_mode" .level (askText "MODE?") "Sample/Hold"
    (takeNamed "MODE" [("Sample/Hold", "S"), ("Continuous", "C"), ("Off", "O")] "Invalid sample mode is given"),
  setting "level_monitor_units" .level (askText "UNITS?") "cm"
    (takeNamed "UNITS" [("cm", "CM"), ("in", "IN"), ("%", "PERCENT")] "Invalid units are given"),
  .unary "level_monitor_measure" "ch" measure,
  .variadic "level_monitor_sample_interval" fun
    | [] => do
      if ← isLive then askText "INTVL?"
      else
        Channel.level.check
        return "00:10:00"
    | [h, m, s] => silent (takeInterval h m s)
    | _ => forbid "Invalid Argument. It should be ('hours', 'minutes', 'seconds')",
  setting "level_monitor_hrc_target_pressure" .recondenser (askText "PSET?") "0.5 PSI"
    (takeNumber "PSET " 3 0.15 14.25 "Target pressure should be in the range of 0.15 to 14.25 psi"),
  setting "level_monitor_hrc_heater_power_limit" .recondenser (askText "HLIM?") "6.0 Watts"
    (takeNumber "HLIM " 2 0.1 10 "Heater power limit should be in the range of 0.1 to 10 watts"),
  setting "level_monitor_hrc_heater_enable" .recondenser askHeater "On"
    (takeNamed "HEAT" [("Off", "OFF"), ("On", "ON")] "Invalid heater state is given"),
  rawCommand "level_monitor_command",
  rawQuestion "level_monitor_query"] ++ lineCommands

def greet : Act Link Unit := do
  selfTest toInt 1
  let _ ← query "REMOTE;*OPC?"

def lm510 : Instrument where
  State := Monitor
  view := linkView
  start := do
    let settings ← Bench.adjusted Factory.lm510
    let line ← parameters settings
    let second ← Line.setting (← specific settings) "hrc_second_channel"
    let link ← connect { mode := (← get).mode, line } [.ethernet greet true] (Bench.stop wrongInterface)
    return { link, hasRecondenser := second == "True" }
  commands := commands

end LevelMonitor
end EprBench
