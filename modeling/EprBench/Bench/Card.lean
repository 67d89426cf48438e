import EprBench.Bench
import EprBench.Decimal.Binary

/-! A measurement card in the computer. It is driven through registers, which have symbolic names, and
through transfers of samples. -/
namespace EprBench.Card

def openAt (path : String) : Work Bool := do
  Bench.note (.openCard path.toUTF8.toList)
  match ← Bench.nextPrepared "spcm_hOpen" with
  | some .nothing | some (.int 0) => return false
  | _ => return true

def close : Work Unit := Bench.note .closeCard

def answer (register value : Value) : Work Value := do
  let name := match value, register with
    | .text command, _ => command
    | _, .text r => r
    | _, _ => ""
  return (← Bench.nextPrepared name).getD 0

def put (register : String) (value : Value) : Work Value := do
  Bench.note (.setRegister false register value)
  answer register value

def putWide (register : String) (value : Value) : Work Value := do
  Bench.note (.setRegister true register value)
  answer register value

def putAll (entries : List (String × Value)) : Work Unit :=
  entries.forM fun e => do
    let _ ← put e.1 e.2

def factoryValue : String → Value
  | "SPC_MIINST_MAXADCVALUE" => 32768
  | "SPC_MIINST_BITSPERSAMPLE" => 14
  | _ => 0

def read (register : String) : Work Value := return (← Bench.nextPrepared register).getD (factoryValue register)

def upload (samples : Array Int) : Work Unit := Bench.note (.upload "SPCM_DIR_PCTOCARD" 0 samples)

def joint (commands : List String) : Value := .text ("|".intercalate commands)

def transfer : Work Unit := do
  let _ ← put "SPC_M2CMD" (joint ["M2CMD_DATA_STARTDMA", "M2CMD_DATA_WAITDMA"])

def signed32 (n : Int) : Value := .int (n.bmod (twoTo 32))

def signed64 (n : Int) : Value := .int (n.bmod (twoTo 64))

end EprBench.Card
