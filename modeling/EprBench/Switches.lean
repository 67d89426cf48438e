import EprBench.Factory
import EprBench.Line.Dialogue
import EprBench.Line.Registers
import EprBench.Line.Socket

/-! Discrete inputs and outputs, and relays. -/
namespace EprBench.Switches

open Line Value

/-! ### Inputs and outputs -/

def stateName (n : Nat) : String :=
  if n = 0 then "0"
  else String.join (((List.range 4).filter n.testBit).map fun (i : Nat) => Decimal.natText (i + 1))

def states : List (String × Int) := (List.range 16).map fun (n : Nat) => (stateName n, (n : Int))

def channels : List (String × Int) := [("1", 1), ("2", 2), ("3", 3), ("4", 4)]

def readUnsigned (register : Value) : Act Link Int := do (← readRegister register 0 false).toInt
def writeUnsigned (register value : Value) : Act Link Unit := writeRegister register value 0 16 false

def withCounter (v : Value) (act : Value → Act Link Value) (rehearsal : Value) : Act Link Value := do
  match ← find channels v with
  | some n => Line.answer (act (.int (63 + n))) rehearsal
  | none => refuse "Invalid argument" "Incorrect channel"

def takeState (v : Value) : Act Link Unit := do
  match ← find states v with
  | some n => if ← isLive then writeUnsigned 50 (.int n)
  | none => refuse "Invalid state" "Incorrect state"

def askState (register : Value) : Act Link Value := do return nameOf states (← readUnsigned register)

def mk110 : Instrument where
  State := Link
  view := linkView
  start := do
    let settings ← Bench.adjusted Factory.owenMk110
    let line ← parameters settings
    shareLine line (← modbusParameters settings)
  commands := [
    givenName "discrete_io_name",
    .unary "discrete_io_input_counter" "channel" fun v =>
      withCounter v (fun r => do return .int (← readUnsigned r)) 1,
    .unary "discrete_io_input_counter_reset" "channel" fun v =>
      withCounter v (fun r => silent (writeUnsigned r 0)) .nothing,
    plainQuestion "discrete_io_input_state" (askState 51) "0",
    .variadic "discrete_io_output_state" fun
      | [] => Line.answer (askState 50) "0"
      | [v] => silent (takeState v)
      | _ => do if ← isLive then return .nothing else throw (.refused "Incorrect argument"),
    .plain "close_connection" (silent disconnect)] ++ unsignedRegisters 16

/-! ### Relays -/

abbrev Relays := Option Parameters

def relayPort : Int := 8283

def turn (on : Bool) (number : Value) : Act Relays Value := do
  let packet := (s!"admin admin k{number.display}=" ++ if on then "1" else "0").toUTF8.toList
  match ← get with
  | none => throw .noMember
  | some p =>
    Bench.writing (.sendTo (.bytes packet) (.text p.ethernetAddress) (.int relayPort))
    Bench.message (s!"Channel {number.display} turned " ++ if on then "on" else "off")
    return .nothing

def relays : Instrument where
  State := Relays
  tellsMode := false
  view p name := if name == "config" then p.map Parameters.table else none
  start := return none
  commands := [
    .plain "_Rodos_10N__init" do
      let settings ← Bench.adjusted Factory.rodos
      let p ← parameters settings
      set (some p)
      let _ ← specific settings
      return .nothing,
    .unary "relay_turn_on" "number" (turn true),
    .unary "relay_turn_off" "number" (turn false)]

end EprBench.Switches
