import EprBench.Factory
import EprBench.Line.Dialogue
import EprBench.Line.Registers
import EprBench.Value.Arithmetic

/-! The compressor of a cryogenic refrigerator. -/
namespace EprBench.Refrigerator

open Line Value

def states : List (String × Int) := [
  ("Idling", 0), ("Starting", 2), ("Running", 3), ("Stopping", 5), ("Error Lockout", 6), ("Error", 7),
  ("Helium Cool Down", 8), ("Power related Error", 9), ("Recovered from Error", 15)]

def warnings : List (String × Int) := [
  ("No warnings", 0), ("Coolant IN running High", 1), ("Coolant IN running Low", 2), ("Coolant OUT running High", 4),
  ("Coolant OUT running Low", 8), ("Oil running High", 16), ("Oil running Low", 32), ("Helium running High", 64),
  ("Helium running Low", 128), ("Low Pressure running High", 256), ("Low Pressure running Low", 512),
  ("High Pressure running High", 1024), ("High Pressure running Low", 2048), ("Delta Pressure running High", 4096),
  ("Delta Pressure running Low", 8192), ("Static Presure running High", 131072), ("Static Presure running Low", 262144),
  ("Cold head motor Stall", 524288)]

def alarms : List (String × Int) := [
  ("No Errors", 0), ("Coolant IN High", 1), ("Coolant IN Low", 2), ("Coolant OUT High", 4), ("Coolant OUT Low", 8),
  ("Oil High", 16), ("Oil Low", 32), ("Helium High", 64), ("Helium Low", 128), ("Low Pressure High", 256),
  ("Low Pressure Low", 512), ("High Pressure High", 1024), ("High Pressure Low", 2048), ("Delta Pressure High", 4096),
  ("Delta Pressure Low", 8192), ("Motor Current Low", 16384), ("Three Phase Error", 32768), ("Power Supply Error", 65536),
  ("Static Presure High", 131072), ("Static Presure Low", 262144)]

def pressureScales : List (String × Int) := [("PSI", 0), ("Bar", 1), ("KPA", 2)]
def temperatureScales : List (String × Int) := [("Fahrenheit", 0), ("Celsius", 1), ("Kelvin", 2)]

def wholeSize (v : Value) : Outcome Int := do
  match ← operand v with
  | .int n => return n.natAbs
  | .float x => truncated x.abs

def named (warning alarm : Int) : List Value := [nameOf warnings warning, nameOf alarms alarm]

def askConditions : Act Link Value := do
  let warning ← wholeSize (← readReal 3)
  let alarm ← wholeSize (← readReal 5)
  return .list (named warning alarm)

def measurements : List (Int × Nat) :=
  [(7, 2), (9, 2), (11, 2), (13, 2), (15, 0), (17, 2), (19, 0), (21, 2), (23, 2), (25, 2)]

def askMeasurement (register : Int) (places : Nat) : Act Link Number := do
  operand (← rounded places (← readReal (.int register)))

def askStatus : Act Link Value := do
  let xs ← measurements.mapM fun e => do (← askMeasurement e.1 e.2).real
  let hours ← Number.div (← askMeasurement 27 0) (.int 1000)
  return .floatRow (xs ++ [hours]).toArray

def rehearsedStatus : Value := .floatRow #[33.4, 37.8, 45.1, 10.1, 189.1, 180.1, 221.2, 220.0, 40.1, 4.7, 1000.1]

def askName (register : Value) (table : List (String × Int)) : Act Link Value := do
  return nameOf table (← (← readInput register 0).toInt)

def writeUnsigned (register value : Value) : Act Link Unit := writeRegister register value 0 6 false

def takeState (v : Value) : Act Link Unit := do
  match ← v.choice [("On", (1 : Int)), ("Off", 255)] with
  | some code => if ← isLive then writeUnsigned 1 (.int code)
  | none => forbid "Incorrect state"

def cpa1110 : Instrument where
  State := Link
  view := linkView
  start := do
    let settings ← Bench.adjusted Factory.cpa1110
    let line ← parameters settings
    shareLine line (← modbusParameters settings)
  commands := [
    givenName "cryogenic_refrigerator_name",
    lenient "cryogenic_refrigerator_state" (askName 1 states) "Idling" takeState,
    plainQuestion "cryogenic_refrigerator_status_data" askStatus rehearsedStatus,
    plainQuestion "cryogenic_refrigerator_warning_data" askConditions (.list ["No warnings", "No Errors"]),
    plainQuestion "cryogenic_refrigerator_pressure_scale" (askName 29 pressureScales) "PSI",
    plainQuestion "cryogenic_refrigerator_temperature_scale" (askName 30 temperatureScales) "Celsius",
    .plain "close_connection" (silent disconnect),
    .fixed "device_write_unsigned" ["register", "value", "decimals"] fun
      | [r, v, d] => silent (writeRegister r v d 6 false)
      | _ => throw .wrongType,
    .fixed "device_read_unsigned" ["register", "decimals"] fun
      | [r, d] => readInput r d
      | _ => throw .wrongType,
    .unary "device_read_float" "register" readReal]

end EprBench.Refrigerator
