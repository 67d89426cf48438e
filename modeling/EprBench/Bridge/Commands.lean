import EprBench.Bridge.Vane
import EprBench.Factory

/-! The two bridges. -/
namespace EprBench.Bridge

open Value

def bridge : Instrument where
  State := State
  start := makeReady Factory.mikranBridge
  commands := commonCommands ++ [firstAttenuator "Attenuator PRD1", secondAttenuator "Attenuator PRD2", controlPhase,
    receiverPhase, videoAttenuator "Video Attenuation", amplifier].map Dial.command

def vaneDials : List Dial := [firstAttenuator "Attenuator RECT", secondAttenuator "Attenuator AWG", controlPhase, receiverPhase,
  videoAttenuator "Video Attenuation 1", secondVideoAttenuator]

def vaneView (s : State) : String → Option Value
  | "curr_dB" => some s.vane.wanted.value
  | "prev_dB" => some s.vane.reached.value
  | "flag" => some (.int (if s.vane.referenced then 1 else 0))
  | _ => none

def bridgeWithVane : Instrument where
  State := State
  start := makeReady Factory.mikranBridge2
  commands := commonCommands ++ vaneDials.map Dial.command ++ [
    Vane.command Vane.motorSteps,
    .unary "calibration" "x" fun v => do return ← Vane.calibrated v,
    -- Rounding takes two numbers, of which one is always missing.
    { name := "numpy_round", takesMore := true, takesAnyName := true, run := fun _ => throw .wrongType }]
  view := vaneView

end EprBench.Bridge
