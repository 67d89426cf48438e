import EprBench.Line.Parameters

/-! Instruments at a network address. Each exchange opens the socket anew. -/
namespace EprBench.Line

structure Endpoint where
  host : String
  port : Int

namespace Endpoint

def ofSettings (es : Entries) : Outcome Endpoint := do
  let _ ← setting es "udp_ip"
  let _ ← Value.intOfText (← setting es "udp_port")
  let host ← setting es "tcp_ip"
  return ⟨host, ← Value.intOfText (← setting es "tcp_port")⟩

variable (e : Endpoint)

def replyOf : Option Value → List UInt8
  | none => []
  | some (.bytes bs) => bs
  | some v => v.display.toList.map fun c => if c.toNat < 256 then c.toNat.toUInt8 else '?'.toNat.toUInt8

def guarded {α : Type} (x : Work α) : Work α :=
  tryCatch x fun f => if f.isSystem then Bench.stop "No Connection" else throw f

def deliver (packet : Value) : Work Unit := do
  Bench.opening (.openSocket (.text e.host) (.int e.port))
  Bench.writing (.sendTo packet (.text e.host) (.int e.port))

def put (packet : Value) : Work Unit := guarded (e.deliver packet)

def ask (packet count : Value) : Work (List UInt8) := guarded do
  e.deliver packet
  let n ← count.toInt
  Bench.note (.receive n)
  return Text.slice none (some n) (replyOf (← Bench.nextReply))

end Endpoint

end EprBench.Line
