import EprBench.Command
import EprBench.Factory
import EprBench.Line.Link
import EprBench.Line.Socket

/-! A temperature controller at a network address, with named channels. -/
namespace EprBench.Temperature.Stanford

open Line Value

abbrev Controller := Endpoint

def isLive : Act Controller Bool := Bench.isLive

def packet (command : Value) : Value := .bytes (command.display ++ "\r\n").toUTF8.toList

def send (command : Value) : Act Controller Unit := do (← get).put (packet command)

def query (command count : Value) : Act Controller Value := do
  return .bytes (← (← get).ask (packet command) count)

def number (channel : Value) (text : String) : Act Controller (Option Float) := do
  let ask : Act Controller (Option Float) := do
    return some (← (← query (.text (channel.display ++ ".value?")) 50).toReal)
  ask.rescue Fault.isValue fun _ => do
    Bench.message text
    return none

def temperature (channel : Value) : Act Controller Value := do
  if ← isLive then
    match ← number channel "Incorrect channel name. Please, check" with
    | some x => return .float x
    | none => return .nothing
  else return .float 200

def power (channel : Value) : Act Controller Value := do
  if ← isLive then
    match ← number channel "Incorrect output channel name. Please, check" with
    | some x => return .text (Decimal.floatText x ++ " W")
    | none => return .nothing
  else return "1 W"

def isAllowed (x : Float) : Bool := x ≤ 320 && x ≥ 0.3

def setPoint (vs : List Value) : Act Controller Value := do
  match ← isLive, vs with
  | true, [channel, v] =>
    let x := Decimal.roundPlaces (← v.toReal) 1
    if !isAllowed x then Bench.stop "Incorrect set point temperature"
    send (.text (channel.display ++ ".PID.Mode On"))
    send (.text (channel.display ++ ".PID.Setpoint " ++ Decimal.floatText x))
    return .nothing
  | true, [channel] => return .float (← (← query (.text (channel.display ++ ".PID.Setpoint?")) 50).toReal)
  | true, _ => Bench.stop "Invalid argument"
  | false, [_, v] =>
    ensure (isAllowed (← v.toReal)) "Incorrect set point temperature is reached"
    return .nothing
  | false, [_] => return .float 298
  | false, _ => return .nothing

def commands : List (Command Controller) := [
  .plain "tc_name" (do
    if ← isLive then
      match ← query "*IDN?" 100 with
      | .bytes bs => return .text (← decoded bs)
      | v => return v
    else return "Stanford Research PTC 10"),
  .unary "tc_temperature" "channel" temperature,
  .variadic "tc_setpoint" setPoint,
  .unary "tc_heater_power" "channel" power,
  .unary "tc_command" "command" fun v => do
    if ← isLive then send v
    return .nothing,
  -- A question needs the length of its answer, which is not given here.
  .unary "tc_query" "command" fun _ => do
    if ← isLive then throw .wrongType else return .nothing,
  .unary "device_write" "command" fun v => do
    send v
    return .nothing,
  .fixed "device_query" ["command", "bytes_to_recieve"] fun
    | [v, n] => query v n
    | _ => throw .wrongType]

def ptc10 : Instrument where
  State := Controller
  start := do
    let es ← specific (← Bench.adjusted Factory.ptc10)
    let e ← Endpoint.ofSettings es
    if ← Bench.isLive then
      e.put (packet "*CLS")
      let _ ← e.ask (packet "*TST?") 100
    return e
  commands := commands

end EprBench.Temperature.Stanford
