import EprBench.Ladder
import EprBench.Line.Dialogue
import EprBench.Quantity.Sum

/-! Oscilloscopes: what they have in common. -/
namespace EprBench

open Line

structure Scope where
  link : Link
  channels : Int
  sensitivityMin : Float
  sensitivityMax : Float
  rangeMin : Float := 0
  rangeMax : Float := 0
  frequencyMin : Float := 0
  frequencyMax : Float := 0
  window : Window := .start
  recordLength : Int

namespace Scope

instance : Linked Scope := ⟨Scope.link, fun f s => { s with link := f s.link }⟩

def reach (p : Parameters) : Work Unit := do
  openEthernet p false
  Bench.note (.set "read_termination" (.text p.readEnd))

/-! ### Channels -/

def channelNumbers : List (String × Int) := [("CH1", 1), ("CH2", 2), ("CH3", 3), ("CH4", 4)]

structure ChannelTexts where
  unknown : String := "Invalid channel is given"
  beyond : String := "Invalid channel is given"
  unknownReason : String := "Invalid channel is given"
  beyondReason : String := "Invalid channel is given"

def channel (texts : ChannelTexts) (v : Value) : Act Scope Int := do
  match channelNumbers.lookup v.display with
  | none => refuse texts.unknown texts.unknownReason
  | some n => if n ≤ (← get).channels then return n else refuse texts.beyond texts.beyondReason

def channelProperty (name : String) (ask : Value → Act Scope Value) (take : Value → Value → Act Scope Unit)
    (tooMany : Fault) : Command Scope :=
  .variadic name fun
    | [c] => ask c
    | [c, v] => silent (take c v)
    | _ => do if ← isLive then Bench.stop "Invalid argument" else throw tooMany

def channelQuestion (texts : ChannelTexts) (question : Int → String) (read : Value → Outcome Value) (rehearsal : Value)
    (c : Value) : Act Scope Value := do
  let n ← channel texts c
  Line.answer (do read (← query (.text (question n)))) rehearsal

def millivolts (v : Value) : Outcome Value := do return .float ((← v.toReal) * 1000)

/-! ### Curves -/

def volts (reference step origin : Float) (samples : Value) : Outcome (List Float) := do
  match samples with
  | .ints _ data => return data.toList.map fun n => (Decimal.ofInt n - reference) * step + origin
  | .floats _ data => return data.toList.map fun x => (x - reference) * step + origin
  | _ => throw .wrongType

def row (xs : List Float) : Value := .floatRow xs.toArray

def countUp (n : Int) : Value := .intRow ((List.range n.toNat).map fun (i : Nat) => (i : Int)).toArray

def nearestSetting (wanted : Int) (available : List Int) (what : String) : Act Scope Int := do
  let n := nearestOf wanted available
  if n != wanted then remark s!"Desired {what} cannot be set, the nearest available value is used"
  return n

def timeResolution (points range : Act Scope Float) : Act Scope Float := do
  let n ← points
  let t ← range
  if n == 0 then throw .divisionByZero
  return 1000000 * t / n

/-! ### Direct access -/

def rowCommands (kind : String) : List (Command Scope) := [
  .unary "device_query_ascii" "command" fun v => return .floatRow (← queryNumbers v),
  .unary "device_read_binary" "command" (queryBlock kind)]

end Scope
end EprBench
