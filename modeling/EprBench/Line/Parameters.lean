import EprBench.Bench.File
import EprBench.Settings.Reference
import EprBench.Value.Convert

/-! The parameters of the line to an instrument, taken from its settings. -/
namespace EprBench.Line

structure Parameters where
  name : String
  interface : String
  timeout : Value
  board : Int
  gpibAddress : Int
  serialAddress : String
  baudRate : Int
  dataBits : Int
  parity : Value
  stopBits : Value
  writeEnd : String
  readEnd : String
  ethernetAddress : String

def gpibTimeouts : List Value :=
  [.float 0.01, .float 0.03, .float 0.1, .float 0.3] ++
    ([1, 3, 10, 30, 100, 300, 1000, 3000, 10000, 30000, 100000, 300000, 1000000] : List Int).map .int

def distance (wanted : Int) : Value → Value.Number
  | .float x => .float (x - Decimal.ofInt wanted).abs
  | .int n => .int (n - wanted).natAbs
  | _ => .int 0

def nearestTimeout (wanted : Int) : Value :=
  (gpibTimeouts.tail.foldl (fun (best : Value) t =>
    if (distance wanted t).compare (distance wanted best) == some .lt then t else best) (.float 0.01))

def gpibTimeout (wanted : Int) : Work Value := do
  let _ ← liftM (Value.realOfInt wanted)
  let t := nearestTimeout wanted
  if (← liftM t.toInt) != wanted then
    Bench.message s!"Desired GPIB timeout cannot be set, the nearest available value {t.display} ms is used"
  return t

def parityCode (interface word : String) : Value :=
  let table : List (String × Value) :=
    if interface == "rs485" then [("even", "E"), ("odd", "O"), ("none", "N")]
    else [("odd", 1), ("even", 2), ("none", 0)]
  (table.lookup word).getD word

def stopBitsCode (interface word : String) : Value :=
  let table : List (String × Value) :=
    if interface == "rs485" then [("one", 1), ("two", 2)]
    else [("one", 10), ("onehalf", 15), ("two", 20)]
  (table.lookup word).getD word

def lineEnd : String → String
  | "r" => "\r"
  | "rn" => "\r\n"
  | "nr" => "\n\r"
  | _ => "\n"

def parameters (s : Settings) : Work Parameters := do
  let name ← liftM (s.get "DEFAULT" "name")
  let interface ← liftM (s.get "DEFAULT" "type")
  let wanted ← liftM (s.get "DEFAULT" "timeout" >>= Value.intOfText)
  let timeout ← if interface == "gpib" then gpibTimeout wanted else pure (.int wanted)
  let whole (part key : String) : Outcome Int := s.get part key >>= Value.intOfText
  let board ← liftM (whole "GPIB" "board")
  let gpibAddress ← liftM (whole "GPIB" "address")
  let serialAddress ← liftM (s.get "SERIAL" "address")
  let baudRate ← liftM (whole "SERIAL" "baudrate")
  let dataBits ← liftM (whole "SERIAL" "databits")
  let parity ← liftM (s.get "SERIAL" "parity")
  let stopBits ← liftM (s.get "SERIAL" "stopbits")
  let writeEnd ← liftM (s.get "SERIAL" "write_termination")
  let readEnd ← liftM (s.get "SERIAL" "read_termination")
  let ethernetAddress ← liftM (s.get "ETHERNET" "address")
  return {
    name, interface, timeout, board, gpibAddress, serialAddress, baudRate, dataBits
    parity := parityCode interface parity
    stopBits := stopBitsCode interface stopBits
    writeEnd := lineEnd writeEnd
    readEnd := lineEnd readEnd
    ethernetAddress }

def modbusParameters (s : Settings) : Outcome (String × Int) := do
  let mode ← s.get "MODBUS" "mode"
  let address ← s.get "MODBUS" "slave_address" >>= Value.intOfText
  return (if mode == "ascii" then "ascii" else "rtu", address)

def specific (s : Settings) : Outcome Entries := s.items "SPECIFIC"

def setting (es : Entries) (key : String) : Outcome String :=
  match es.lookup key with
  | some v => .ok v
  | none => .error .noKey

def realSetting (es : Entries) (key : String) : Outcome Float := do Value.realOfText (← setting es key)

def wholeSetting (es : Entries) (key : String) : Outcome Int := do Value.truncated (← realSetting es key)

end EprBench.Line
