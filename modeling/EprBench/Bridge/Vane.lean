import EprBench.Bridge.Basic

/-! The rotary vane attenuator. It is moved by a number of motor steps from where it was left, or to one of its
two limits. -/
namespace EprBench.Bridge.Vane

open Value

/-! ### Calibration -/

def exponential (x : Float) : Outcome Float :=
  let y := x.exp
  if y.isInf && !x.isInf then .error .overflow else .ok y

def squareRoot (x : Float) : Outcome Float := if x < 0 then .error .wrongValue else .ok x.sqrt

def calibration (attenuation : Number) : Outcome Float := do
  let x ← attenuation.real
  let falling ← exponential (-0.0508708 * x)
  let rising ← exponential (0.00768761 * x)
  let root ← squareRoot x
  return -4409.48 + 676.179 * falling + 2847.41 * rising - 0.345934 * (x * x) + 2847.41 * rising - 440.034 * root

def calibrated (v : Value) : Outcome Value := do
  if !v.isArray then return .float (← calibration (← v.operand))
  match ← v.numbers with
  | .whole ⟨shape, [n]⟩ => return .floats shape #[← calibration (.int n)]
  | .real ⟨shape, [x]⟩ => return .floats shape #[← calibration (.float x)]
  | _ => throw .wrongType

def motorSteps (attenuation : Number) : Outcome Int := do truncated (← calibration attenuation)

def way (place : Number → Outcome Int) (start stop : Number) : Outcome Int := do
  let target ← place stop
  return target - (← place start)

/-! ### Moves -/

def signedWord (n : Int) : Outcome (List UInt8) :=
  if -32768 ≤ n && n ≤ 32767 then
    let w := (n % 65536).toNat
    .ok [(w / 256).toUInt8, (w % 256).toUInt8]
  else .error .overflow

def remember (f : Vane → Vane) : Act State Unit := modify fun s => { s with vane := f s.vane }

def settle : Act State Unit := do
  if (← get).vane.moves then Bench.note .joinThread

def runFor (milliseconds : Int) : Act State Unit := do
  Bench.note .startThread
  Bench.sleep (Decimal.ofInt milliseconds / 1000)
  remember fun v => { v with moves := true, reached := v.wanted }

def travelTime (steps : Int) : Int := (36 * steps).natAbs

def moveTo (place : Number → Outcome Int) (attenuation : Float) : Act State Unit := do
  remember fun v => { v with wanted := .float (Decimal.roundPlaces attenuation 1) }
  let vane := (← get).vane
  let steps ← way place vane.reached vane.wanted
  settle
  let _ ← exchange ([0x0e, 4, 1, 2] ++ (← signedWord steps)) 6
  runFor (travelTime steps)

def nearestLimit (attenuation : Float) : Outcome Int := do
  truncated (Decimal.ofInt (60 * (← Quantity.nearest (attenuation / 60))))

def limitCode : Int → Option UInt8
  | 60 => some 3
  | 0 => some 2
  | _ => none

def moveToEnd (place : Number → Outcome Int) (code : UInt8) : Act State Unit := do
  settle
  let _ ← exchange [0x0e, 4, 1, 1, 0, code] 6
  let vane := (← get).vane
  let steps ← way place vane.reached vane.wanted
  runFor (if vane.referenced then travelTime steps else 7000)
  remember fun v => { v with referenced := true }

def moveToLimit (place : Number → Outcome Int) (attenuation : Float) : Act State Unit := do
  let x := Decimal.roundPlaces attenuation 1
  let limit ← nearestLimit x
  remember fun v => { v with wanted := .int limit }
  if (← truncated x) != limit then
    Bench.message s!"Attenuation value is rounded to the nearest available {Decimal.intText limit}dB"
  if let some code := limitCode limit then moveToEnd place code

def modeFault : String := "Incorrect rotary vane attenuator mode"

def take (place : Number → Outcome Int) (v mode : Value) : Act State Unit := do
  if ← mode.equals "Arbitrary" then moveTo place (← v.toReal)
  else if ← mode.equals "Limit" then moveToLimit place (← v.toReal)
  else Bench.stop modeFault

def check (v mode : Value) : Act State Unit := do
  ensure (← mode.isOneOf ["Limit", "Arbitrary"]) modeFault
  let x := Decimal.roundPlaces (← v.toReal) 1
  if ← mode.equals "Limit" then
    let limit ← nearestLimit x
    ensure (0 ≤ limit && limit ≤ 60) "Incorrect attenuation"
  else ensure (x ≥ 0 && x ≤ 60) "Incorrect attenuation"

def command (place : Number → Outcome Int) : Command State where
  name := "mw_bridge_rotary_vane"
  takesMore := true
  byName := [.withDefault "mode" "Arbitrary"]
  run g := do
    match g.values, g.more with
    | [mode], [v] =>
      if ← isLive then take place v mode else check v mode
      return .nothing
    | _, [] =>
      if ← isLive then return .text s!"Rotary Vane Attenuation: {(← get).vane.wanted.value.display} dB"
      else return "0 dB"
    | _, _ => return .nothing

end EprBench.Bridge.Vane
