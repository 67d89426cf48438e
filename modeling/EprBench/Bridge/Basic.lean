import EprBench.Bridge.Graduation
import EprBench.Command
import EprBench.Line.Socket
import EprBench.Value.Arithmetic

/-! Microwave bridges at a network address. -/
namespace EprBench.Bridge

open Line Value

structure Vane where
  wanted : Number := .int 60
  reached : Number := .int 60
  referenced : Bool := false
  moves : Bool := false

structure State where
  mode : Mode
  endpoint : Endpoint
  frequencyMin : Int
  frequencyMax : Int
  vane : Vane := {}

def isLive : Act State Bool := return (← get).mode == .live

def exchange (packet : List UInt8) (count : Nat) : Act State (List UInt8) := do
  (← get).endpoint.ask (.bytes packet) (.int count)

def byteAt (reply : List UInt8) (i : Nat) : Outcome Nat := do return (← pick reply i).toNat

def letterOf (n : Nat) : Char := Char.ofNat n

def blanks : List UInt8 := List.replicate 8 0

def property (name : String) (ask : Act State Value) (rehearsal : Value) (take : Value → Act State Unit)
    (check : Value → Act State Unit) : Command State :=
  .variadic name fun
    | [] => do if ← isLive then ask else return rehearsal
    | [v] => do
      if ← isLive then take v else check v
      return .nothing
    | _ => return .nothing

/-! ### Attenuators and phase shifters -/

structure Dial where
  name : String
  label : String
  what : String := "Attenuation"
  unit : String := "dB"
  graduation : Graduation
  setCode : UInt8
  askCode : UInt8
  max : Nat × Nat
  reason : String := "Incorrect attenuation"

namespace Dial

variable (d : Dial)

def isAllowed {α : Type} [Quantity α] (x : α) : Bool :=
  Quantity.le Quantity.zero x && Quantity.le x (Quantity.decimal d.max.1 d.max.2)

def turn {α : Type} [Quantity α] (x : α) : Act State Unit := do
  let code ← d.graduation.code x
  if !d.graduation.isExact x code then
    Bench.message s!"{d.what} value is rounded to the nearest available {d.graduation.text code}{d.unit}"
  let _ ← exchange [d.setCode, 1, ← Graduation.byte code] 3

def take (v : Value) : Act State Unit := do d.turn (← v.toReal)

def ask : Act State Value := do
  let reply ← exchange [d.askCode, 1, 0] 3
  return .text s!"{d.label}: {d.graduation.text (← byteAt reply 2)} {d.unit}"

def check (v : Value) : Act State Unit := do
  ensure (d.isAllowed (← v.toReal)) d.reason

def command : Command State := property d.name d.ask (.text s!"0 {d.unit}") d.take d.check

end Dial

/-! ### Synthesizer -/

def takeFrequency (v : Value) : Act State Unit := do
  let digits := v.display
  let digits := if digits.length == 4 then "0" ++ digits else digits
  let _ ← exchange ([4, 8, 0, 0, 0] ++ digits.toUTF8.toList) 10

def askFrequency : Act State Value := do
  let reply ← exchange ([0x1e, 8] ++ blanks) 10
  let bytes ← liftM (((List.range 6).map (· + 4)).mapM (byteAt reply))
  let digits := (bytes.drop 1).map letterOf
  let digits := if digits.head? == some '0' then digits.drop 1 else digits
  return .text s!"Frequency: {String.ofList digits} MHz"

def checkFrequency (v : Value) : Act State Unit := do
  let s ← get
  let n ← v.toInt
  ensure (n ≥ s.frequencyMin && n < s.frequencyMax) "Incorrect frequency; Too low / high"

/-! ### Cut-off frequency -/

def cutOffs : List (String × UInt8) := [("30", 0), ("105", 1), ("300", 2)]

def takeCutOff (v : Value) : Act State Unit := do
  match cutOffs.lookup v.display with
  | some code =>
    let _ ← exchange [0x1b, 1, code] 3
  | none => Bench.stop "Incorrect cut-off frequency"

def askCutOff : Act State Value := do
  let reply ← exchange [0x25, 1, 0] 3
  let code ← pick reply 2
  match cutOffs.find? (·.2 == code) with
  | some e => return .text s!"Cut-off Frequency: {e.1} MHz"
  | none => throw .notAssigned

def checkCutOff (v : Value) : Act State Unit := do
  ensure (cutOffs.lookup v.display).isSome "Incorrect cut-off frequency should be 30, 105 or 300"

/-! ### State -/

def now : String := "04 Mar 2021 05:06"

def askState : Act State Value := do
  let reply ← exchange ([0x0d, 8] ++ blanks) 10
  let code ← byteAt reply 4
  let temperature ← byteAt reply 8
  match [(1, "INIT"), (2, "WORK"), (3, "FAIL")].lookup code with
  | some state => return .text s!"{now}; Temperature: {Decimal.natText temperature}; State: {state}"
  | none => throw .notAssigned

def reset : Act State Value := do
  if ← isLive then
    let _ ← exchange [0x27, 1, 0] 3
    Bench.message "Initialization done"
  return .nothing

/-! ### Commands of all bridges -/

def halves : Graduation := .fraction 2
def phases : Graduation := .decimal 5625 3

def firstAttenuator (label : String) : Dial :=
  ⟨"mw_bridge_att1_prd", label, "Attenuation", "dB", halves, 0x15, 0x1f, (315, 1), "Incorrect attenuation"⟩
def secondAttenuator (label : String) : Dial :=
  ⟨"mw_bridge_att2_prd", label, "Attenuation", "dB", halves, 0x16, 0x20, (315, 1), "Incorrect attenuation"⟩
def controlPhase : Dial :=
  ⟨"mw_bridge_fv_ctrl", "Phase CTRL", "Phase", "deg", phases, 0x17, 0x21, (354375, 3), "Incorrect phase"⟩
def receiverPhase : Dial :=
  ⟨"mw_bridge_fv_prm", "Phase PRM", "Phase", "deg", phases, 0x19, 0x23, (354375, 3), "Incorrect phase"⟩
def videoAttenuator (label : String) : Dial :=
  ⟨"mw_bridge_att_prm", label, "Attenuation", "dB", .whole 2, 0x1c, 0x26, (30, 0), "Incorrect attenuation"⟩
def secondVideoAttenuator : Dial :=
  ⟨"mw_bridge_att2_prm", "Video Attenuation 2", "Attenuation", "dB", halves, 0x1a, 0x24, (315, 1), "Incorrect attenuation"⟩
def amplifier : Dial :=
  ⟨"mw_bridge_k_prm", "Amplification PRM", "Amplification", "dB", .whole 22, 0x1a, 0x24, (22, 0), "Incorrect amplification"⟩

def commonCommands : List (Command State) := [
  .plain "mw_bridge_name" (return "Mikran X-band MW bridge"),
  property "mw_bridge_synthesizer" askFrequency "Frequency: 9750 MHz" takeFrequency checkFrequency,
  property "mw_bridge_cut_off" askCutOff "300 MHz" takeCutOff checkCutOff,
  .plain "mw_bridge_telemetry" (do if ← isLive then askState else return "Temperature: 28; State: INIT"),
  .plain "mw_bridge_initialize" reset,
  .fixed "device_query" ["command", "bytes_to_recieve"] fun
    | [packet, n] => do return .bytes (← (← get).endpoint.ask packet n)
    | _ => throw .wrongType]

def makeReady (factory : Settings) : Work State := do
  let es ← specific (← Bench.adjusted factory)
  let endpoint ← Endpoint.ofSettings es
  let frequencyMin ← intOfText (← setting es "synthesizer_min")
  let frequencyMax ← intOfText (← setting es "synthesizer_max")
  return { mode := (← get).mode, endpoint, frequencyMin, frequencyMax }

end EprBench.Bridge
