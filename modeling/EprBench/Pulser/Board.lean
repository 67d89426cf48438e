import EprBench.Command
import EprBench.Pulser.Word

/-! The pulse board as its driver library offers it. The library is opened by the first call. -/
namespace EprBench.Pulser.Board

open Value

def library : String := "libspinapi.so"

def use : Work Unit :=
  tryCatch (Bench.useLibrary library do
      let _ ← Bench.callLibrary "pb_set_debug" [.bool false] (return 0)) fun f =>
    if f.isSystem then throw (.refused "No libspinapi is found") else throw f

def ask (function : String) (args : List Value) : Work Value := do
  use
  Bench.callLibrary function args (return 0)

def lastError : Work Value := ask "pb_get_error" []

def expect (bad : Value → Outcome Bool) (answer : Value) : Work Value := do
  if ← bad answer then
    let _ ← lastError
    throw .runtime
  else return answer

def isNotZero (v : Value) : Outcome Bool := .ok (!v.same 0)

def isNegative (v : Value) : Outcome Bool := v.lt 0

def integerArgument : Value → Outcome Int
  | .bool b => .ok (if b then 1 else 0)
  | .int n => .ok n
  | _ => .error .wrongType

def signed32 (v : Value) : Outcome Value := return .int ((← integerArgument v).bmod (twoTo 32))

def unsigned32 (v : Value) : Outcome Value := return .int ((← integerArgument v) % twoTo 32)

def double (v : Value) : Outcome Value := do
  match v with
  | .text _ | .bytes _ => throw .wrongType
  | v => return .float (← v.toReal)

def checked (function : String) (args : List Value) : Work Value := do
  expect isNotZero (← ask function args)

def begin : Work Value := checked "pb_init" []
def start : Work Value := checked "pb_start" []
def stop : Work Value := checked "pb_stop" []
def close : Work Value := checked "pb_close" []
def reset : Work Value := checked "pb_reset" []
def endProgramming : Work Value := checked "pb_stop_programming" []

def startProgramming (device : Value) : Work Value := do
  use
  let n ← signed32 device
  let answer ← Bench.callLibrary "pb_start_programming" [n] do
    modify fun b => { b with instructions := 0 }
    return 0
  expect isNotZero answer

def coreClock (frequency : Value) : Work Unit := do
  use
  let f ← double frequency
  let _ ← Bench.callLibrary "pb_core_clock" [f] (return 0)

def bypass (flag : Value) : Work Unit := do
  use
  let n ← signed32 flag
  let _ ← Bench.callLibrary "pb_bypass_FF_fix" [n] (return 0)

def withoutMark : List Char → List Char
  | '0' :: mark :: '_' :: rest => if mark == 'b' || mark == 'B' then rest else '0' :: mark :: '_' :: rest
  | '0' :: mark :: rest => if mark == 'b' || mark == 'B' then rest else '0' :: mark :: rest
  | cs => cs

def bitsValue (s : String) : Outcome Int :=
  let (negative, body) := Decimal.takeSign (Decimal.dropMargins (s.toList.reverse.map Decimal.plainChar))
  match Decimal.takeDigits (withoutMark body) with
  | (d :: ds, []) =>
    if (d :: ds).any (· > 1) then .error .wrongValue
    else
      let n : Nat := (d :: ds).foldl (fun n d => 2 * n + d) 0
      .ok (if negative then -(n : Int) else n)
  | _ => .error .wrongValue

def flagBits : Value → Outcome Value
  | .text s => return .int (← bitsValue s)
  | .bytes bs => return .int (← bitsValue (charsOfBytes bs))
  | v => .ok v

def instruct (flags operation operand duration : Value) : Work Value := do
  use
  let flags ← flagBits flags
  let args := [← unsigned32 flags, ← signed32 operation, ← signed32 operand, ← double duration]
  let answer ← Bench.callLibrary "pb_inst_pbonly" args do
    let b ← get
    set { b with instructions := b.instructions + 1 }
    return .int b.instructions
  expect isNegative answer

def digitTruth : Char → Outcome Bool
  | '0' => .ok false
  | '1' => .ok true
  | _ => .error .wrongValue

def statusDigits (n : Int) : List Char :=
  let ds := (Nat.toDigits 2 n.natAbs).reverse
  (if n < 0 then ds ++ ['b'] else ds) ++ ['0', '0', '0', '0']

def status : Work Value := do
  let ds := statusDigits (← integerArgument (← ask "pb_read_status" []))
  let flag (i : Nat) : Outcome Value := return .bool (← digitTruth (ds.getD i '0'))
  return .dict [("stopped", ← flag 0), ("reset", ← flag 1), ("running", ← flag 2), ("waiting", ← flag 3)]

def outputsOn : Int := 14680064

def proceed : Value := 0
def halt : Value := 1
def branch : Value := 6

def send (i : Instruction) (operation operand : Value) : Work Value :=
  instruct (.int (outputsOn + i.word)) operation operand (.int i.duration)

def sendBody : List Instruction → Work (Option Value)
  | [] => return none
  | i :: rest => do
    let first ← send i proceed 0
    let _ ← sendBody rest
    return some first

/-- Sends the last instruction, which goes back to the first one: to its number, or always to zero when `toZero`. -/
def sendLast (toZero : Bool) (last : Option Instruction) (first : Option Value) : Work Unit := do
  match last, toZero, first with
  | none, _, _ => throw .outOfRange
  | some i, true, _ =>
    let _ ← send i branch 0
  | some i, false, some n =>
    let _ ← send i branch n
  | some _, false, none => throw .notAssigned

def openProgram (clock : Float) : Work Unit := do
  let _ ← begin
  coreClock clock
  let _ ← startProgramming 0

def launch : Work Unit := do
  let _ ← endProgramming
  let _ ← reset
  let _ ← start
  let _ ← close

def prepareReturn (toZero : Bool) : Work Unit := if toZero then return else bypass 1

def play (clock : Float) (toZero : Bool) (is : List Instruction) : Work Unit := do
  openProgram clock
  prepareReturn toZero
  let first ← sendBody is.dropLast
  sendLast toZero is.getLast? first
  launch

/-- Loads two idle instructions, the second of which stops the board. -/
def idle (clock : Float) : Work Unit := do
  openProgram clock
  let _ ← instruct (.int outputsOn) proceed 0 16
  let _ ← instruct (.int outputsOn) halt 0 16
  launch

def api : Instrument where
  State := Unit
  tellsMode := false
  start := return ()
  commands := [
    .plain "_checkloaded" (do
      use
      return .nothing),
    .plain "pb_get_firmware_id" (ask "pb_get_firmware_id" []),
    .plain "pb_set_debug" (ask "pb_set_debug" [0]),
    .plain "pb_get_version" (ask "pb_get_version" []),
    .plain "pb_get_error" lastError,
    .plain "pb_status_message" (ask "pb_status_message" []),
    .plain "pb_read_status" status,
    .plain "pb_count_boards" (do
      let answer ← ask "pb_count_boards" []
      expect (fun v => .ok (v.same (-1 : Int))) answer),
    .unary "pb_select_board" "board_num" fun v => do
      use
      let n ← signed32 v
      let answer ← Bench.callLibrary "pb_select_board" [n] (return 0)
      expect isNegative answer,
    .plain "pb_init" begin,
    .unary "pb_bypass_FF_fix" "flag" fun v => do
      bypass v
      return .nothing,
    .unary "pb_core_clock" "clock_freq" fun v => do
      coreClock v
      return .nothing,
    .unary "pb_start_programming" "device" fun v => startProgramming v,
    .fixed "pb_inst" ["flags", "inst", "inst_data", "length"] fun
      | [f, i, d, l] => instruct f i d l
      | _ => throw .wrongType,
    .plain "pb_stop_programming" endProgramming,
    .plain "pb_start" start,
    .plain "pb_stop" stop,
    .plain "pb_close" close,
    .plain "pb_reset" reset]

end EprBench.Pulser.Board
