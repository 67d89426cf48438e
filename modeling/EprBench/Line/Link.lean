import EprBench.Line.Parameters

/-! The line to an instrument: how it is opened, and commands and questions that go over it. -/
namespace EprBench.Line

/-! ### Single acts -/

def put (command : Value) : Work Unit := Bench.writing (.write command)

def ask (command : Value) : Work String := do
  Bench.writing (.query command)
  return ((← Bench.nextReply).map Value.display).getD ""

def replyBytes : Option Value → List UInt8
  | none => []
  | some (.bytes bs) => bs
  | some v => v.display.toUTF8.toList

def readBytes : Work (List UInt8) := do
  Bench.note .read
  return replyBytes (← Bench.nextReply)

def decoded (bytes : List UInt8) : Outcome String :=
  match String.fromUTF8? ⟨bytes.toArray⟩ with
  | some s => .ok s
  | none => .error .notEncoded

def readText : Work String := do decoded (← readBytes)

def gpibPause : Float := 0.05

/-! ### Opening -/

def openGpib (p : Parameters) : Work Unit :=
  Bench.opening (.openGpib [.int p.board, .int p.gpibAddress] [("timeout", p.timeout)])

def serialOptions (p : Parameters) (readEnd : Bool) : Options :=
  [("baud_rate", .int p.baudRate), ("data_bits", .int p.dataBits), ("parity", p.parity)] ++
    (if readEnd then [("read_termination", .text p.readEnd)] else []) ++
    [("stop_bits", p.stopBits), ("write_termination", .text p.writeEnd)]

def setTimeout (p : Parameters) : Work Unit := Bench.note (.set "timeout" p.timeout)

def openSerial (p : Parameters) (readEnd : Bool) : Work Unit := do
  Bench.opening (.openVisa (.text p.serialAddress) (serialOptions p readEnd))
  setTimeout p

def openEthernet (p : Parameters) (ends : Bool) : Work Unit := do
  let options : Options :=
    if ends then [("read_termination", .text p.readEnd), ("write_termination", .text p.writeEnd)] else []
  Bench.opening (.openVisa (.text p.ethernetAddress) options)
  setTimeout p

def seconds (v : Value) : Value :=
  match v with
  | .int n => .float (Decimal.ofQuotient n 1000)
  | .float x => .float (x / 1000)
  | other => other

def openModbus (p : Parameters) (transmission : String) (address : Int) : Work Unit := do
  Bench.opening (.openModbus [.text p.serialAddress, .int address])
  for e in [("mode", Value.text transmission), ("baudrate", .int p.baudRate), ("bytesize", .int p.dataBits),
      ("parity", p.parity), ("stopbits", p.stopBits), ("timeout", seconds p.timeout)] do
    Bench.note (.set e.1 e.2)

/-! ### Links -/

def Parameters.table (p : Parameters) : Value :=
  .dict [("name", p.name), ("interface", p.interface), ("timeout", p.timeout), ("board_address", p.board),
    ("gpib_address", p.gpibAddress), ("serial_address", p.serialAddress), ("baudrate", p.baudRate),
    ("databits", p.dataBits), ("parity", p.parity), ("stopbits", p.stopBits),
    ("write_termination", p.writeEnd), ("read_termination", p.readEnd), ("ethernet_address", p.ethernetAddress)]

structure Link where
  mode : Mode
  line : Parameters
  connected : Option Bool := none
  lostCommand : String := "No Connection"
  lostQuestion : String := "No Connection"
  decodes : Bool := true
  asks : Bool := true
  rest : Option Float := none

class Linked (σ : Type) where
  link : σ → Link
  relink : (Link → Link) → σ → σ

instance : Linked Link := ⟨id, fun f => f⟩

section

variable {σ : Type} [Linked σ]

def theLink : Act σ Link := return Linked.link (← get)

def isLive : Act σ Bool := return (← theLink).mode == .live

def linkView (s : σ) : String → Option Value
  | "config" => some (Linked.link s).line.table
  | "status_flag" => (Linked.link s).connected.map fun b => .int (if b then 1 else 0)
  | _ => none

def needConnection (text : String) : Act σ Unit := do
  match (← theLink).connected with
  | none => throw .noMember
  | some true => return
  | some false => Bench.stop text

def send (command : Value) : Act σ Unit := do
  needConnection (← theLink).lostCommand
  put (.text command.display)

def query (command : Value) : Act σ Value := do
  let l ← theLink
  needConnection l.lostQuestion
  if l.line.interface == "gpib" then
    put command
    Bench.sleep gpibPause
    let bytes ← readBytes
    if l.decodes then return .text (← decoded bytes) else return .bytes bytes
  else if l.asks then
    let told ← ask command
    if let some s := l.rest then Bench.sleep s
    return .text told
  else throw .wrongType

def disconnect : Act σ Unit := do
  if ← isLive then modify (Linked.relink fun l => { l with connected := some false })

end

/-! ### Making a link -/

structure Route where
  interface : String
  reach : Parameters → Work Unit
  greet : Act Link Unit := return
  missing : Fault → Bool

def pipeBroken (f : Fault) : Bool := f == .pipeBroken
def unreachable (f : Fault) : Bool := f == .pipeBroken || f == .lineError

namespace Route

def gpib (greet : Act Link Unit := return) : Route := ⟨"gpib", openGpib, greet, pipeBroken⟩

def serial (greet : Act Link Unit := return) (readEnd : Bool := true) : Route :=
  ⟨"rs232", fun p => openSerial p readEnd, greet, unreachable⟩

def ethernet (greet : Act Link Unit := return) (ends : Bool := false) : Route :=
  ⟨"ethernet", fun p => openEthernet p ends, greet, unreachable⟩

def modbus (transmission : String) (address : Int) : Route :=
  ⟨"rs485", fun p => openModbus p transmission address, return, (· == .serialLost)⟩

end Route

def wrongInterface : String := "Incorrect interface setting"

def connect (link : Link) (routes : List Route) (otherwise : Work Unit := return) : Work Link := do
  if link.mode == .rehearsal then return link
  match routes.find? (·.interface == link.line.interface) with
  | none =>
    otherwise
    return link
  | some r =>
    let work : Act Link Unit := do
      r.reach link.line
      r.greet
    let guarded := Act.rescue r.missing work fun _ => Bench.stop "No connection"
    return (← guarded.runFrom { link with connected := some true }).2

def andThen (link : Link) (words : Act Link Unit) : Work Link := do
  if link.mode == .rehearsal then return link
  return (← words.runFrom link).2

def selfTest (read : Value → Outcome Int) (good : Int := 0) : Act Link Unit := do
  if (← read (← query "*TST?")) != good then Bench.stop "During internal device test errors are found"

end EprBench.Line
