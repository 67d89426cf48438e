import EprBench.Command
import EprBench.Line.Link

/-! Registers of an instrument on a shared line. -/
namespace EprBench.Line

variable {σ : Type} [Linked σ]

/-- Asks for something in a register. A silent instrument answers zero. -/
def readFrom (what : String) (args : List Value) (options : Options) : Act σ Value := do
  needConnection (← theLink).lostQuestion
  Bench.note (.modbus what args options)
  return (← Bench.nextReply).getD 0

def readRegister (register decimals : Value) (signed : Bool) : Act σ Value :=
  readFrom "read_register" [register, decimals] [("signed", .bool signed)]

def readInput (register decimals : Value) : Act σ Value :=
  readFrom "read_register" [register, decimals] [("functioncode", 4), ("signed", .bool false)]

def readReal (register : Value) : Act σ Value :=
  readFrom "read_float" [register] [("byteorder", 3), ("functioncode", 4)]

def writeRegister (register value decimals : Value) (function : Int) (signed : Bool) : Act σ Unit := do
  needConnection (← theLink).lostCommand
  Bench.note (.modbus "write_register" [register, value, decimals] [("functioncode", .int function), ("signed", .bool signed)])
  let _ ← Bench.nextReply

def signedRegisters (function : Int) (pause : Act σ Unit := return) : List (Command σ) := [
  .fixed "device_write_signed" ["register", "value", "decimals"] fun
    | [r, v, d] => do writeRegister r v d function true; return .nothing
    | _ => throw .wrongType,
  .fixed "device_read_signed" ["register", "decimals"] fun
    | [r, d] => do
      let v ← readRegister r d true
      pause
      return v
    | _ => throw .wrongType]

def unsignedRegisters (function : Int) : List (Command σ) := [
  .fixed "device_write_unsigned" ["register", "value", "decimals"] fun
    | [r, v, d] => do writeRegister r v d function false; return .nothing
    | _ => throw .wrongType,
  .fixed "device_read_unsigned" ["register", "decimals"] fun
    | [r, d] => readRegister r d false
    | _ => throw .wrongType]

def shareLine (line : Parameters) (modbus : String × Int) : Work Link := do
  connect { mode := (← get).mode, line } [.modbus modbus.1 modbus.2] (Bench.stop wrongInterface)

end EprBench.Line
