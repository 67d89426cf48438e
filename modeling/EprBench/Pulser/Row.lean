import EprBench.Pulser.Pulse

/-! Rows: a pulse as the bit of its channel and an interval of ticks. -/
namespace EprBench.Pulser

open Value

structure Row where
  /-- The bit of the channel in an output word. -/
  channel : Int
  start : Int
  /-- The first tick after the pulse. -/
  stop : Int
  deriving Repr, DecidableEq

namespace Row

def length (r : Row) : Int := r.stop - r.start

def active (r : Row) (t : Int) : Bool := r.start ≤ t && t < r.stop

def le (a b : Row) : Bool :=
  a.channel < b.channel ||
    (a.channel == b.channel && (a.start < b.start || (a.start == b.start && a.stop ≤ b.stop)))

def insertBy (before : Row → Row → Bool) (r : Row) : List Row → List Row
  | [] => [r]
  | s :: rest => if before r s then r :: s :: rest else s :: insertBy before r rest

def sortBy (before : Row → Row → Bool) (rows : List Row) : List Row := rows.foldr (insertBy before) []

def sortByStart (rows : List Row) : List Row := sortBy (fun a b => a.start ≤ b.start) rows

def sortByChannel (rows : List Row) : List Row := sortBy (fun a b => a.channel ≤ b.channel) rows

def distinct (rows : List Row) : List Row := sortBy le rows.eraseDups

def groups (rows : List Row) : List (List Row) :=
  rows.splitBy fun a b => a.channel == b.channel

def table (rows : List Row) : Value :=
  .ints [rows.length, 3] (rows.flatMap fun r => [r.channel, r.start, r.stop]).toArray

end Row

/-! ### From pulses to rows -/

/-- What is known from the pulses before; a unit of time that is not known leaves it as it is. -/
structure Carry where
  channel : Option Nat := none
  start : Option Int := none
  length : Option Int := none
  windowed : Bool := false

def Carry.row (c : Config) : Carry → Outcome Row
  | ⟨some channel, some start, some length, _⟩ =>
    .ok ⟨twoTo channel, start + c.constantShift, c.constantShift + start + length⟩
  | _ => .error .notAssigned

abbrev Conversion := ExceptT Fault (StateM Carry)

instance : MonadLift Outcome Conversion := ⟨fun x => ExceptT.mk (pure x)⟩

def tickFactors : List (String × Int) := [("ns", 1), ("us", 1000), ("ms", 1000000), ("s", 1000000000)]

def ticksOf (α : Type) [Timescale α] (c : Config) (time : Value) : Outcome (Option Int) := do
  match ← (← time.slice (some (-2)) none).choice tickFactors with
  | none => return none
  | some k =>
    let x : α ← Timescale.ofText (← (← time.slice none (some (-3))).asText)
    return some (← Quantity.truncated (x * Quantity.ofInt k / Quantity.ofInt c.timebase))

def renew {α : Type} (new old : Option α) : Option α := new.orElse fun _ => old

structure Properties where
  channel : Outcome Value
  start : Outcome Value
  length : Outcome Value
  deltaStart : Outcome Value
  lengthIncrement : Outcome Value

namespace Properties

def ofPulse (p : Pulse) : Properties :=
  ⟨.ok p.channel, .ok p.start, .ok p.length, .ok p.deltaStart, .ok p.lengthIncrement⟩

def ofTable (table : Outcome Value) : Properties :=
  let field (name : String) : Outcome Value := do (← table).field name
  ⟨field "channel", field "start", field "length", field "delta_start", field "length_increment"⟩

def ofTables (v : Value) : Outcome (List Properties) := do
  let table (i : Nat) : Outcome Value := if v.isArray then .error .outOfRange else v.nth i
  return (List.range (← v.size)).map fun i => ofTable (table i)

def effectiveStart (c : Config) (mode : Mode) (windowed : Bool) (p : Properties) : Outcome Value := do
  let start ← p.start
  if windowed then return .text (← moved mode start (.int (-c.windowLead))) else return start

def effectiveLength (c : Config) (mode : Mode) (windowed : Bool) (p : Properties) : Outcome Value := do
  let length ← p.length
  if windowed then return .text (← moved mode length (.int (c.windowLead + c.windowTail))) else return length

end Properties

/-- A pulse of the waveform generator is played inside a window that opens before it. -/
def isWindowed (channel : Value) : Bool := channel.isText "AWG"

def convert (α : Type) [Timescale α] (c : Config) (mode : Mode) (p : Properties) : Conversion Row := do
  let name ← p.channel
  let channel ← name.find c.channels
  modify fun s => { s with channel := renew channel s.channel }
  let windowed := isWindowed name
  let start ← p.effectiveStart c mode windowed
  modify fun s => { s with windowed := s.windowed || windowed }
  let startTicks ← ticksOf α c start
  modify fun s => { s with start := renew startTicks s.start }
  let length ← p.effectiveLength c mode windowed
  let lengthTicks ← ticksOf α c length
  modify fun s => { s with length := renew lengthTicks s.length }
  let _ ← (do ticksOf α c (← p.deltaStart) : Outcome _)
  let _ ← (do ticksOf α c (← p.lengthIncrement) : Outcome _)
  (← get).row c

def fits (n : Int) : Bool := -(twoTo 63 : Int) ≤ n && n < twoTo 63

def rowsIn (α : Type) [Timescale α] (c : Config) (mode : Mode) (windowed : Bool) (ps : List Properties) :
    Outcome (List Row) × Bool :=
  let (result, carry) := (ps.mapM (convert α c mode)).run.run { windowed := windowed }
  let rows : Outcome (List Row) := do
    let rows ← result
    if rows.all fun r => fits r.start && fits r.stop then return Row.sortByChannel rows
    else throw .overflow
  (rows, carry.windowed)

def rowsOf (c : Config) (mode : Mode) (windowed : Bool) (ps : List Properties) : Outcome (List Row) × Bool :=
  rowsIn Float c mode windowed ps

end EprBench.Pulser
