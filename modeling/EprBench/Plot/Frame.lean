import EprBench.Bench
import EprBench.Value.Operand

/-! Frames for the plot window: a description of what to draw, as a JSON text filled up with blanks to a fixed length;
the numbers to draw go through shared memory. -/
namespace EprBench.Plot

open Value Decimal

def frameLength : Nat := 300

def capacity : Nat := twoTo 28

def unitText (n : Nat) : List Char := '\\' :: 'u' :: hexDigits 4 n

def jsonChar (c : Char) : List Char :=
  let n := c.toNat
  if c = '"' then ['\\', '"']
  else if c = '\\' then ['\\', '\\']
  else if c = '\n' then ['\\', 'n']
  else if c = '\r' then ['\\', 'r']
  else if c = '\t' then ['\\', 't']
  else if n = 8 then ['\\', 'b']
  else if n = 12 then ['\\', 'f']
  else if n < 32 ∨ (126 < n ∧ n < 0x10000) then unitText n
  else if n < 127 then [c]
  else unitText (0xD800 + (n - 0x10000) / 0x400) ++ unitText (0xDC00 + (n - 0x10000) % 0x400)

def jsonText (s : String) : String := String.ofList ('"' :: s.toList.flatMap jsonChar ++ ['"'])

def jsonReal (x : Float) : String :=
  if x != x then "NaN"
  else if isFinite x then floatText x
  else if x > 0 then "Infinity" else "-Infinity"

def jsonKey : Value → Outcome String
  | .text s => .ok (jsonText s)
  | .int n => .ok (jsonText (intText n))
  | .float x => .ok (jsonText (jsonReal x))
  | .bool b => .ok (if b then "\"true\"" else "\"false\"")
  | .nothing => .ok "\"null\""
  | _ => .error .wrongType

mutual

def json : Value → Outcome String
  | .nothing => .ok "null"
  | .bool b => .ok (if b then "true" else "false")
  | .int n => .ok (intText n)
  | .float x => .ok (jsonReal x)
  | .text s => .ok (jsonText s)
  | .list xs => return "[" ++ ", ".intercalate (← jsonItems xs) ++ "]"
  | .tuple xs => return "[" ++ ", ".intercalate (← jsonItems xs) ++ "]"
  | .dict es => return "\x7b" ++ ", ".intercalate (← jsonEntries es) ++ "\x7d"
  | _ => .error .wrongType

def jsonItems : List Value → Outcome (List String)
  | [] => .ok []
  | x :: xs => do
    let t ← json x
    let ts ← jsonItems xs
    return t :: ts

def jsonEntries : List (Value × Value) → Outcome (List String)
  | [] => .ok []
  | (k, v) :: es => do
    let key ← jsonKey k
    let t ← json v
    let ts ← jsonEntries es
    return (key ++ ": " ++ t) :: ts

end

abbrev Description := List (Value × Value)

def Description.put (d : Description) (name : String) (v : Value) : Description :=
  if d.any (·.1.isText name) then d.map fun e => if e.1.isText name then (e.1, v) else e
  else d ++ [(.text name, v)]

def describe (properties : Options) : Description := properties.map fun p => (.text p.1, p.2)

structure Numbers where
  shape : List Nat
  data : Array Float
  whole : Bool := false

def Numbers.ofWhole (shape : List Nat) (ns : Array Int) : Numbers :=
  ⟨shape, ns.map fun (n : Int) => Float.ofBits (n % twoTo 64).toNat.toUInt64, true⟩

def Numbers.kind (a : Numbers) : String := if a.whole then "int64" else "float64"

def Numbers.ofValue (v : Value) : Outcome Numbers := do
  let (shape, data) ← v.toFloats
  return { shape, data }

def Numbers.bytes (a : Numbers) : Nat := 8 * a.data.size

def withNumbers (d : Description) : Option Numbers → Description
  | none => d.put "arrsize" 0
  | some a =>
    ((d.put "arrsize" (.int a.bytes)).put "dtype" a.kind).put "shape" (.tuple (a.shape.map fun (n : Nat) => .int n))

structure Frame where
  description : Description
  numbers : Option Numbers := none

/-- What is written: the description with its numbers, where no name stands for all windows. -/
def Frame.complete (f : Frame) (name : Value) : Description :=
  let d := match name with
    | .nothing => f.description.put "name" "*"
    | _ => f.description
  withNumbers d f.numbers

def Frame.text (f : Frame) : Outcome String := do
  match f.description.find? (·.1.isText "name") with
  | none => throw .noKey
  | some (_, name) =>
    if f.numbers.any fun a => a.bytes > capacity then throw .wrongValue
    let text ← json (.dict (f.complete name))
    if text.length > frameLength then throw .wrongValue
    return text.padRight frameLength

def send (f : Frame) : Work Unit := do
  let text ← f.text
  Bench.note (.plot ⟨text⟩ text.length)
  match f.numbers with
  | some a => Bench.note (.sharedMemory a.data)
  | none => return

def flush : Frame := ⟨describe [("name", "none"), ("operation", "none")], some { shape := [1], data := #[0] }⟩

end EprBench.Plot
