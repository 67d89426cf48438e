import EprBench.Command
import EprBench.Value.Arithmetic

/-! A slow converter card that delivers voltages without end. It is driven through functions of a library;
settings go to it only when it is set up. -/
namespace EprBench.Digitizer

open Value

def flows : List (String × Int) :=
  [("ADC", 1), ("DIN", 2), ("DAC1", 16), ("DAC2", 32), ("DOUT", 64), ("AIN", 3), ("AOUT", 112)]

def errorRuns : List (Int × List String) := [
  (0, ["OK", "INVALID_HANDLE", "MEMORY_ALLOC", "ALREADY_OPENED", "DEVICE_NOT_FOUND", "DEVICE_ACCESS_DENIED",
    "DEVICE_OPEN", "INVALID_POINTER", "STREAM_IS_RUNNING", "RECV", "SEND", "STREAM_OVERFLOW", "UNSUP_STREAM_MSG",
    "MUTEX_CREATE", "MUTEX_INVALID_HANDLE", "MUTEX_LOCK_TOUT", "MUTEX_RELEASE", "INSUFFICIENT_SYSTEM_RESOURCES",
    "NOT_IMPLEMENTED", "INSUFFICIENT_ARRAY_SIZE", "FPGA_REG_READ", "FPGA_REG_WRITE", "STREAM_IS_NOT_RUNNING",
    "INTERFACE_RELEASE", "THREAD_START", "THREAD_STOP", "DEVICE_DISCONNECTED", "IOCTL_INVALID_RESP_SIZE",
    "INVALID_DEVICE", "INVALID_DEVICE_RECORD", "INVALID_CONFIG_HANDLE", "DEVICE_NOT_OPENED", "INVALID_OP_FOR_IFACE",
    "FPGA_NOT_LOADED", "INVALID_USB_CONFIGURATION", "INVALID_SVC_BROWSE_HANDLE", "INVALID_SVC_RECORD_HANDLE",
    "DNSSD_NOT_RUNNING", "DNSSD_COMMUNICATION", "SVC_RESOLVE_TIMEOUT", "INSTANCE_NAME_ENCODING", "INSTANCE_MISMATCH",
    "NOT_SUP_BY_FIRMWARE", "NOT_SUP_BY_DRIVER", "OUT_CYCLE_SETUP_TOUT", "UNKNOWN_FEATURE_CODE"]),
  (-102, ["INVALID_LTABLE_SIZE", "INVALID_LCH_NUMBER", "INVALID_LCH_RANGE", "INVALID_LCH_MODE",
    "INVALID_LCH_PHY_NUMBER", "INVALID_LCH_AVG_SIZE", "INVALID_ADC_FREQ_DIV", "INVALID_DIN_FREQ_DIV", "INVALID_MODE",
    "INVALID_DAC_CHANNEL", "INVALID_REF_FREQ", "INVALID_INTERFRAME_DELAY", "INVALID_SYNC_MODE", "INVALID_STREAM_CH",
    "INVALID_OUT_FREQ_DIV"]),
  (-131, ["REF_FREQ_NOT_LOCKED", "IOCTL_FAILD", "IOCTL_TIMEOUT", "GET_INFO", "DIG_IN_NOT_RDY",
    "RECV_INSUFFICIENT_WORDS", "DAC_NOT_PRESENT", "SEND_INSUFFICIENT_WORDS", "NO_CMD_RESPONSE", "PROC_INVALID_CH_NUM",
    "PROC_INVALID_CH_RANGE", "FLASH_INVALID_ADDR", "FLASH_INVALID_SIZE", "FLASH_WRITE_TOUT", "FLASH_ERASE_TOUT",
    "FLASH_SECTOR_BOUNDARY", "SOCKET_OPEN", "CONNECTION_TOUT", "CONNECTION_CLOSED_BY_DEV", "SOCKET_SET_BUF_SIZE",
    "NO_DATA_CONNECTION", "NO_STREAM_END_MSG", "CONNECTION_RESET", "HOST_UNREACHABLE", "TCP_CONNECTION_ERROR"]),
  (-180, ["LDR_FILE_OPEN", "LDR_FILE_READ", "LDR_FILE_FORMAT", "LDR_FILE_UNSUP_FEATURE",
    "LDR_FILE_UNSUP_STARTUP_ADDR", "BF_REQ_TIMEOUT", "BF_CMD_IN_PROGRESS", "BF_CMD_TIMEOUT",
    "BF_CMD_RETURN_INSUF_DATA", "BF_LOAD_RDY_TOUT", "BF_NOT_PRESENT", "BF_INVALID_ADDR",
    "BF_INVALID_CMD_DATA_SIZE"])]

def errorName (code : Int) : Option String :=
  (errorRuns.findSome? fun run => if code ≤ run.1 then run.2[(run.1 - code).toNat]? else none).map ("X502_ERR_" ++ ·)

structure Converter where
  mode : Mode
  /-- Reference clock in megahertz. -/
  reference : Number := .int 2
  externalClock : Bool := false
  flow : Option Int := some 1
  points : Option Int
  buffer : Array Float := Array.replicate 128 0
  handle : Value := "ptr"
  opened : Bool := false
  taken : Nat := 0

namespace Converter

def silent (x : Act Converter Unit) : Act Converter Value := do
  x
  return .nothing

def byValue : Value → Value
  | .bool b => .bool b
  | .int n => .int n
  | .float x => .float x
  | .text s => .text s
  | .bytes bs => .bytes bs
  | _ => "ptr"

def call (function : String) (args : List Value) : Act Converter Value := do
  Bench.callLibrary function ((← get).handle :: args) (return 0)

def order (function : String) (args : List Value) : Act Converter Unit := do
  let _ ← call function args

def word (n : Int) : Value := .int (n % twoTo 32)

def pointCount : Act Converter Int := do
  match (← get).points with
  | some n => return n
  | none => throw .noMember

def openCard : Act Converter Unit := do
  let found ← Bench.callLibrary "X502_Create" [] (return 0)
  modify fun c => { c with handle := byValue found }
  if found matches .nothing then Bench.stop "No card found..."
  order "L502_Open" [.bytes [0]]
  modify fun c => { c with opened := true }

def hertz (c : Converter) : Outcome Int := do
  match ← Number.mul (.int 1000000) c.reference with
  | .int n => return n
  | .float x => truncated x

def reportError (answer : Value) : Work Unit := do
  if ← answer.equals 0 then Bench.message "No errors"
  else
    match errorName (← answer.toInt) with
    | some name => Bench.message name
    | none => Bench.message "None"

def setup : Act Converter Unit := do
  if (← get).mode == .live then
    if !(← get).opened then openCard
    let c ← get
    order "X502_SetMode" [0]
    if c.externalClock then order "X502_SetExtRefFreqValue" [.float (Decimal.ofInt (← c.hertz))]
    else order "X502_SetRefFreq" [word (← c.hertz)]
    order "X502_SetSyncMode" [if c.externalClock then 1 else 0]
    let some flow := c.flow | throw .wrongType
    order "X502_StreamsEnable" [.int flow]
    order "X502_SetStreamBufSize" [0, 20000]
    order "X502_SetStreamStep" [0, 20000]
    order "X502_SetAdcInterframeDelay" [0]
    order "X502_SetLChannelCount" [1]
    order "X502_SetLChannel" [0, 0, 1, 2, 0]
    reportError (← call "X502_Configure" [0])
    let n ← pointCount
    modify fun c => { c with buffer := Array.replicate n.toNat 0 }
    order "X502_StreamsStart" []
    Bench.message "0.0"

def fill (delivered : Array Float) (count : Nat) (buffer : Array Float) : Array Float :=
  if delivered.isEmpty then buffer
  else buffer.mapIdx fun i x => if i < count then delivered.getD (i % delivered.size) 0 else x

def curve : Act Converter Value := do
  let c ← get
  let n ← pointCount
  match c.mode with
  | .rehearsal => return .floatRow (Array.replicate n.toNat 0)
  | .live =>
    modify fun c => { c with taken := c.taken + 1 }
    order "X502_Recv" ["ptr", word n, 2000]
    order "X502_ProcessData" ["ptr", word n, 1, "ptr", "ptr", "ptr", "ptr"]
    let voltages := (← getThe Bench).voltages
    modify fun c => { c with buffer := fill voltages n.toNat c.buffer }
    if (← get).taken == 100 then
      order "X502_GetRecvReadyCount" ["ptr"]
      Bench.message "0"
      modify fun c => { c with taken := 0 }
    return .floatRow (← get).buffer

def close : Act Converter Unit := do
  if (← get).mode == .live then
    order "X502_StreamsStop" []
    order "X502_Close" []
    order "X502_Free" []

def reject (text : String) : Act Converter Unit := do
  match (← get).mode with
  | .live => Bench.stop text
  | .rehearsal => throw (.refused text)

def setting (name : String) (answer : Converter → Outcome Value) (rehearsal : Converter → Outcome Value)
    (take : Value → Act Converter Unit) : Command Converter :=
  .variadic name fun vs => do
    let c ← get
    match vs, c.mode with
    | [], .live => answer c
    | [], .rehearsal => rehearsal c
    | [v], _ => silent (take v)
    | _, .live => return .nothing
    | _, .rehearsal => throw (.refused "Incorrect argument")

def takeReference (v : Value) : Act Converter Unit := do
  let x := Decimal.roundPlaces (← v.toReal) 1
  if (← get).externalClock then
    if !(x ≤ 1.5) then reject "Incorrect reference clock for External mode; Should be less than 1.5 MHz"
  else if !(x == 2.0 || x == 1.5) then
    reject "Incorrect reference clock for Internal mode; Should be 1.5 or 2.0 MHz"
  modify fun c => { c with reference := .float x }

def takeClockMode (v : Value) : Act Converter Unit := do
  match v.display with
  | "Internal" => modify fun c => { c with externalClock := false }
  | "External" => modify fun c => { c with externalClock := true }
  | _ => reject "Incorrect clock mode; Only Internal and External modes are available"

/-- A rehearsal checks the name of a flow and keeps the old one. -/
def takeFlow (v : Value) : Act Converter Unit := do
  let code := flows.lookup v.display
  match (← get).mode with
  | .live => modify fun c => { c with flow := code }
  | .rehearsal =>
    ensure code.isSome "Incorrect flow mode; Should be 'ADC'; 'DIN'; 'DAC1'; 'DAC2'; 'DOUT'; 'AIN'; 'AOUT'"

def takePoints (v : Value) : Act Converter Unit := do
  let n ← v.toInt
  let few := "Number of points must be more than 1"
  if n ≥ 1 then modify fun c => { c with points := some n }
  else
    match (← get).mode with
    | .live => Bench.message few
    | .rehearsal => throw (.refused few)

def pointsValue (c : Converter) : Outcome Value :=
  match c.points with
  | some n => .ok (.int n)
  | none => .error .noMember

def printInfo (handle : Value) : Act Converter Value := do
  let answer ← Bench.callLibrary "X502_GetDevInfo" [byValue handle, "ptr"] (return 0)
  Bench.print s!"Info: {answer.display}"
  Bench.print "Board Name: b''"
  Bench.print "Serial Number: b''"
  ["devflags", "fpga_ver", "plda_ver", "board_rev", "mcu_firmware_ver"].forM fun name => Bench.print s!"{name}: 0"
  let calibration (part : String) (count : Nat) : Work Unit :=
    (List.range count).forM fun i => do
      Bench.print s!"-->{part} cbr_offs {Decimal.natText i}: 0.0"
      Bench.print s!"-->{part} cbr_koef {Decimal.natText i}: 0.0"
  calibration "ADC" 6
  calibration "DAC" 2
  return .nothing

def commands : List (Command Converter) := [
  .plain "digitizer_name" (return "L-card L502"),
  .plain "digitizer_setup" (silent setup),
  { name := "digitizer_get_curve"
    parameters := [.withDefault "integral" (.bool false)]
    run := fun _ => curve },
  .plain "digitizer_close" (silent close),
  setting "digitizer_reference_clock" (fun c => .ok (.text s!"{c.reference.value.display} MHz"))
    (fun _ => .ok "2 MHz") takeReference,
  setting "digitizer_clock_mode" (fun c => .ok (if c.externalClock then "External" else "Internal"))
    (fun _ => .ok "Internal") takeClockMode,
  setting "digitizer_flow" (fun c => .ok (match c.flow with
    | some code => nameOf flows code
    | none => .nothing)) (fun _ => .ok "ADC") takeFlow,
  setting "digitizer_number_of_points" pointsValue pointsValue takePoints,
  .unary "_L_card_L502__error_check" "value" fun v => silent (reportError v),
  .unary "get_info" "hnd" printInfo]

def start : Work Converter := do
  Bench.useLibrary "libx502api.so" (return)
  Bench.useLibrary "libl502api.so" (return)
  let mode := (← get).mode
  return { mode := mode, points := if mode == .live then some 128 else none }

def instrument : Instrument where
  State := Converter
  start := start
  commands := commands
  view
    | c, "points" => c.points.map .int
    | _, _ => none

end Converter
end EprBench.Digitizer
