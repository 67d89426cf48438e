import EprBench.Factory
import EprBench.Line.Dialogue
import EprBench.Line.Registers
import EprBench.Quantity
import EprBench.Value.Arithmetic

/-! Temperature controllers with registers for each channel. Registers hold degrees, scripts use kelvins. -/
namespace EprBench.Temperature.Termodat

open Line Value

/-! ### Kelvins and degrees -/

section

variable {α : Type} [Quantity α]

def toDegrees (t : α) : α := Quantity.rounded 1 t - Quantity.decimal 2731 1

def setPointOf (degrees : α) : α := Quantity.rounded 1 (degrees + Quantity.decimal 27315 2)

/-- The temperature of a measurement register; the first channel has another zero than the rest. -/
def measured (channel : Nat) (degrees : α) : α :=
  Quantity.rounded 1 (degrees + if channel = 1 then Quantity.decimal 27315 2 else Quantity.decimal 2731 1)

def isAllowed (t : α) : Bool := Quantity.le t (Quantity.ofInt 750) && Quantity.le (Quantity.decimal 3 1) t

end

structure Model where
  settings : Settings
  channels : Nat
  pause : Option Float := none

structure Controller where
  link : Link
  inUse : Int

instance : Linked Controller := ⟨Controller.link, fun f c => { c with link := f c.link }⟩

def registerOf (offset : Int) (channel : Nat) : Value := .int (offset + 1024 * (channel - 1 : Nat))

def states : List (String × Int) := [("On", 1), ("Off", 0)]

namespace Model

variable (m : Model)

def names : List (String × Nat) := (List.range m.channels).map fun i => (Decimal.natText (i + 1), i + 1)

def channel? (name : String) : Option Nat := m.names.lookup name

def pauseAfter : Act Controller Unit := do
  if let some s := m.pause then Bench.sleep s

def readSigned (register decimals : Value) : Act Controller Value := do
  let v ← readRegister register decimals true
  m.pauseAfter
  return v

def writeUnsigned (register value : Value) : Act Controller Unit := writeRegister register value 0 6 false

def reading (ask : Nat → Act Controller Value) (rehearsal : Value) (v : Value) : Act Controller Value := do
  match ← v.choice m.names with
  | none => refuse "Invalid argument" "Incorrect channel"
  | some c => Line.answer (ask c) rehearsal

def askTemperature (c : Nat) : Act Controller Value := do
  return .float (measured c (← (← m.readSigned (registerOf 368 c) 1).toReal))

def askPower (c : Nat) : Act Controller Value := do
  return .float (Decimal.roundPlaces (← (← readRegister (registerOf 370 c) 1 false).toReal) 1)

/-! ### Set points -/

def inUse (name wrong : String) : Act Controller Nat := do
  match m.channel? name with
  | none => refuse wrong "Invalid channel argument"
  | some c => if c ≤ (← get).inUse then return c else refuse wrong "Invalid channel"

def setPoint (vs : List Value) : Act Controller Value := do
  match vs with
  | [channel, v] =>
    let t ← v.toReal
    if ← isLive then
      if !isAllowed (Decimal.roundPlaces t 1) then Bench.stop "Incorrect set point temperature"
      let c ← m.inUse channel.display "Invalid channel"
      silent (writeRegister (registerOf 369 c) (.float (toDegrees t)) 1 6 true)
    else
      let _ ← m.inUse channel.display ""
      ensure (isAllowed t) "Incorrect set point temperature is reached"
      return .nothing
  | [channel] =>
    let c ← m.inUse channel.display "Incorrect channel"
    Line.answer (do return .float (setPointOf (← (← m.readSigned (registerOf 369 c) 1).toReal))) 273
  | _ => do if ← isLive then Bench.stop "Invalid argument" else return .nothing

/-! ### Loops -/

def sensor (vs : List Value) : Act Controller Value := do
  match vs with
  | [channel, v] =>
    let c := m.channel? channel.display
    let state := states.lookup v.display
    if ← isLive then
      match state, c with
      | none, _ => Bench.stop "Incorrect state"
      | _, none => Bench.stop "Incorrect loop"
      | some n, some c => silent (writeUnsigned (registerOf 384 c) (.int n))
    else
      ensure c.isSome "Invalid loop"
      ensure state.isSome "Invalid state"
      return .nothing
  | [channel] =>
    match m.channel? channel.display with
    | none => refuse "Incorrect loop" "Invalid loop"
    | some c => Line.answer (do return nameOf states (← (← readRegister (registerOf 384 c) 0 false).toInt)) "Off"
  | _ => do if ← isLive then Bench.stop "Invalid argument" else return .nothing

/-- A coefficient of the control loop: where its register is, what is put there for a number, the limits of
that, and what is told for what was found there. -/
structure Coefficient where
  name : String
  what : String
  offset : Int
  toRegister : Float → Float
  min : Float
  max : Float
  ofRegister : Int → Outcome Value

/-- Coefficients are not looked at in a rehearsal. -/
def coefficient (k : Coefficient) : Command Controller :=
  .variadic k.name fun vs => do
    if ← isLive then
      match vs with
      | [channel, v] =>
        let x := k.toRegister (← v.toReal)
        match m.channel? channel.display with
        | none => Bench.stop "Incorrect channel"
        | some c =>
          if !(x ≥ k.min && x ≤ k.max) then Bench.stop s!"Incorrect {k.what} coefficient"
          silent (writeUnsigned (registerOf k.offset c) (.float x))
      | [channel] =>
        match m.channel? channel.display with
        | none => Bench.stop "Incorrect channel"
        | some c => k.ofRegister (← (← readRegister (registerOf k.offset c) 0 false).toInt)
      | _ => Bench.stop "Invalid argument"
    else return .nothing

def tenths (x : Float) : Float := Decimal.roundPlaces x 1 * 10

def ofTenths (n : Int) : Outcome Value := .float <$> Number.div (.int n) (.int 10)

def coefficients : List Coefficient := [
  ⟨"tc_proportional", "proportional", 386, tenths, 0.1, 2000, ofTenths⟩,
  ⟨"tc_derivative", "derivative", 388, tenths, 0, 999.9, ofTenths⟩,
  ⟨"tc_integral", "integral", 387, fun x => Decimal.roundPlaces x 0, 0, 9999, fun n => .ok (.int n)⟩]

def commands : List (Command Controller) := [
  givenName "tc_name",
  .unary "tc_temperature" "channel" (m.reading m.askTemperature 300),
  .variadic "tc_setpoint" m.setPoint,
  .unary "tc_heater_power" "channel" (m.reading askPower 0),
  .variadic "tc_sensor" m.sensor,
  .plain "close_connection" (silent disconnect)] ++
  coefficients.map m.coefficient ++ signedRegisters 6 m.pauseAfter ++ unsignedRegisters 6

def instrument : Instrument where
  State := Controller
  view := linkView
  start := do
    let settings ← Bench.adjusted m.settings
    let line ← parameters settings
    let modbus ← modbusParameters settings
    let inUse ← intOfText (← setting (← specific settings) "channels")
    return { link := ← shareLine line modbus, inUse }
  commands := m.commands

end Model

def termodat11 : Model where
  settings := Factory.termodat11
  channels := 4
  pause := some 0.01

def termodat13 : Model where
  settings := Factory.termodat13
  channels := 2

end EprBench.Temperature.Termodat
