import EprBench.Command
import EprBench.Line.Link

/-! Commands that become words on a line. A session sends them; a rehearsal only checks the values. A wrong
value ends a session with a message and is refused in a rehearsal. -/
namespace EprBench.Line

variable {σ : Type} [Linked σ]

def silent (x : Act σ Unit) : Act σ Value := do
  x
  return .nothing

/-- Refuses a value: with a message that ends the script or, in a rehearsal, with a reason. -/
def refuse {β : Type} (text reason : String) : Act σ β := do
  if ← isLive then Bench.stop text else throw (.refused reason)

def forbid {β : Type} (text : String) : Act σ β := refuse text text

def tell (command : String) : Act σ Unit := do
  if ← isLive then send (.text command)

def remark (text : String) : Act σ Unit := do
  if ← isLive then Bench.message text

def askInt (command : String) : Act σ Int := do (← query (.text command)).toInt

def askReal (command : String) : Act σ Float := do (← query (.text command)).toReal

def answer (session : Act σ Value) (rehearsal : Value) : Act σ Value := do
  if ← isLive then session else return rehearsal

/-! ### Amounts -/

def amount (v : Value) : Outcome (Float × String) := do
  let words ← v.pieces ' '
  let x ← Value.realOfText (← pick words 0)
  return (x, ← pick words 1)

def amountIn (units : List (String × Float)) (v : Value) : Outcome (Float × Option Float) := do
  let (x, unit) ← amount v
  return (x, units.lookup unit)

def timeUnits : List (String × Float) := [("s", 1), ("ms", 1000), ("us", 1000000), ("ns", 1000000000)]

def voltUnits : List (String × Float) := [("V", 1), ("mV", 1000)]

def withReal (command : String) (x : Float) : String := command ++ Decimal.floatText x

/-! ### Commands -/

def property (name : String) (ask : Act σ Value) (rehearsal : Value) (take : Value → Act σ Unit) (reason : String)
    (text : String := "Invalid argument") : Command σ :=
  .variadic name fun
    | [] => answer ask rehearsal
    | [v] => silent (take v)
    | _ => refuse text reason

/-- A property that a rehearsal leaves alone when there are too many values. -/
def lenient (name : String) (ask : Act σ Value) (rehearsal : Value) (take : Value → Act σ Unit)
    (tooMany : String := "Invalid argument") : Command σ :=
  .variadic name fun
    | [] => answer ask rehearsal
    | [v] => silent (take v)
    | _ => do if ← isLive then Bench.stop tooMany else return .nothing

def givenName (name : String) : Command σ := .plain name (do return .text (← theLink).line.name)

def plainOrder (name command : String) : Command σ := .plain name (silent (tell command))

def plainQuestion (name : String) (ask : Act σ Value) (rehearsal : Value) : Command σ :=
  .plain name (answer ask rehearsal)

def identity (name : String) (question : String := "*IDN?") : Command σ :=
  .plain name do
    if ← isLive then query (.text question) else return .text (← theLink).line.name

def rawCommand (name : String) : Command σ :=
  .unary name "command" fun v => silent do
    if ← isLive then send v

def rawQuestion (name : String) : Command σ :=
  .unary name "command" fun v => answer (query v) .nothing

def lineCommands : List (Command σ) := [
  .plain "close_connection" (silent disconnect),
  .unary "device_write" "command" fun v => silent (send v),
  .unary "device_query" "command" query]

/-! ### Answers with many numbers -/

def takeWord (cs : List Char) : Option (Float × List Char) :=
  let (negative, rest) := Decimal.takeSign cs
  let starts (w : String) : Bool := Decimal.isWord w (rest.take w.length)
  let sign (x : Float) : Float := if negative then -x else x
  if starts "nan" then some (0.0 / 0.0, rest.drop 3)
  else if starts "infinity" then some (sign (1.0 / 0.0), rest.drop 8)
  else if starts "inf" then some (sign (1.0 / 0.0), rest.drop 3)
  else none

def numbersOf : List (List Char) → List Float
  | [] => []
  | piece :: more =>
    let body := piece.dropWhile Text.isBlank
    match (Decimal.takeNumber body).or (takeWord body) with
    | none => []
    | some (x, rest) => x :: if rest.all Text.isBlank then numbersOf more else []

def numbers (text : String) : List Float := numbersOf (Text.splitAt ',' (text.toList.takeWhile (· != '_')))

def queryNumbers (command : Value) : Act σ (Array Float) := do
  needConnection (← theLink).lostQuestion
  Bench.writing (.queryNumbers command)
  return (numbers (((← Bench.nextReply).map Value.display).getD "")).toArray

def blockOf : Option Value → Outcome Value
  | some (.list (x :: xs)) => do return (← (Value.list (x :: xs)).numbers).value
  | _ => .ok (.floatRow #[])

def queryBlock (kind : String) (command : Value) : Act σ Value := do
  needConnection (← theLink).lostQuestion
  Bench.writing (.queryBlock command kind true)
  blockOf (← Bench.nextReply)

end EprBench.Line
