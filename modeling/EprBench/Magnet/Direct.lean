import EprBench.Factory
import EprBench.Line.Dialogue
import EprBench.Value.Arithmetic

/-! Field controllers that take a field in one command. -/
namespace EprBench.Magnet.Direct

open Line Value

structure Controller where
  link : Link
  field : Option Value := none

instance : Linked Controller := ⟨Controller.link, fun f c => { c with link := f c.link }⟩

structure Model where
  settings : Settings
  fieldMin : Int := -50
  fieldMax : Int
  deliver : Value → Act Controller Unit
  settle : Value → Outcome Value
  order : Value → String
  tells : Bool

namespace Model

variable (m : Model)

def needField (v : Value) : Act Controller Unit := do
  if !(← within (.int m.fieldMin) (.int m.fieldMax) v) then forbid "Incorrect field range"

def remember (v : Value) : Act Controller Unit := modify fun c => { c with field := some v }

def setField (v : Value) : Act Controller Value := do
  let v ← if ← isLive then liftM (m.settle v) else pure v
  m.needField v
  if ← isLive then m.deliver (.text (m.order v))
  remember v
  return if m.tells then v else .nothing

def theField : Act Controller Value := do
  if ← isLive then
    match (← get).field with
    | some v => return v
    | none => throw .noMember
  else return 3500

def setUp (first : Value) : Act Controller Unit := do
  m.needField first
  remember first
  if m.tells then
    let _ ← m.setField first

def commands : List (Command Controller) := [
  givenName "magnet_name",
  .fixed "magnet_setup" ["start_field", "field_step"] fun
    | [first, _] => silent (m.setUp first)
    | _ => throw .wrongType,
  .variadic "magnet_field" fun
    | [] => theField
    | [v] => m.setField v
    | _ => do if ← isLive then throw .noName else throw (.refused "Invalid argument"),
  .unary "magnet_command" "command" fun v => silent do
    if ← isLive then m.deliver v,
  .plain "close_connection" (silent disconnect),
  .unary "device_write" "command" fun v => silent (m.deliver v)]

def instrument : Instrument where
  State := Controller
  view := linkView
  start := do
    let settings ← Bench.adjusted m.settings
    let line ← parameters settings
    let _ ← specific settings
    let link ← connect { mode := (← get).mode, line } [.serial (return) false]
    return { link, field := if link.connected.isSome then some (.float 0) else none }
  commands := m.commands

end Model

/-- A controller with a keyboard that is typed on. The text to type is taken for something to carry out, so
nothing is ever typed. -/
def er031m : Model where
  settings := Factory.er031m
  fieldMax := 6000
  deliver _ := do
    needConnection (← theLink).lostCommand
    Bench.sleep 0.9
    throw .wrongType
  settle := .ok
  order v := "cf" ++ v.display
  tells := false

def itcFc : Model where
  settings := Factory.itcFc
  fieldMax := 9000
  deliver := send
  settle := rounded 3
  order v := s!"CF {v.display} #13 #10"
  tells := true

end EprBench.Magnet.Direct
