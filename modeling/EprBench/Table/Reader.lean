import EprBench.Value.Convert

/-! Tables of numbers in a text file: a header, then rows with commas between the numbers. Read back, rows and
columns that stand alone are no dimension of the data. -/
namespace EprBench.Table

def linesOf : List (List Char) → List (List Char)
  | [] => []
  | [last] => if last.isEmpty then [] else [last]
  | line :: rest => (line ++ ['\n']) :: linesOf rest

def lastNumberedLine : Int := 256

/-- How many lines the header has. A count that is no line number makes the whole file a header. -/
def headerLength : Value → Option Nat
  | .int n => if 0 ≤ n ∧ n ≤ lastNumberedLine then some n.toNat else none
  | _ => none

def header (count : Value) (text : List Char) : List (List String) :=
  let lines := linesOf (Text.splitAt '\n' text)
  let shown := match headerLength count with
    | some n => lines.take n
    | none => lines
  shown.map fun line => (Text.splitAt ':' line).map String.ofList

def isMargin (c : Char) : Bool := c == ' ' || c == '\r' || c == '\n'

def withoutMargins (cs : List Char) : List Char :=
  ((cs.dropWhile isMargin).reverse.dropWhile isMargin).reverse

/-- The fields of a line. A number sign starts a comment, and a line with nothing else has no fields. -/
def fields (line : List Char) : List (List Char) :=
  match withoutMargins (line.takeWhile (· != '#')) with
  | [] => []
  | c :: cs => Text.splitAt ',' (c :: cs)

def number (field : List Char) : Float :=
  (Decimal.parseFloatChars? (field.map Decimal.plainChar)).getD (0.0 / 0.0)

def rows (text : List Char) : Outcome (List (List Float)) :=
  let found := ((Text.splitAt '\n' text).map fields).filter (!·.isEmpty)
  let width := (found.headD []).length
  if found.all (·.length == width) then .ok (found.map (·.map number)) else .error .wrongValue

def squeezed (rows : List (List Float)) : Value :=
  match rows with
  | [] => .floats [0] #[]
  | row :: _ => .floats ([rows.length, row.length].filter (· != 1)) rows.flatten.toArray

def byColumns (rows : List (List Float)) : Value :=
  match rows with
  | [] => squeezed []
  | row :: _ => squeezed (Tensor.columns row.length rows)

def sliceOf (n : Nat) (rest : List Nat) (data : Array Float) (start stop : Option Int) : Value :=
  let kept := Text.slice start stop (Tensor.pieces n (Tensor.volume rest) data.toList)
  .floats (kept.length :: rest) kept.flatten.toArray

def cutOf : Value → Outcome (Option Int)
  | .nothing => .ok none
  | .int n => .ok (some n)
  | .bool b => .ok (some (if b then 1 else 0))
  | _ => .error .wrongType

def evenLengths (n count : Nat) : List Nat :=
  List.replicate (n % count) (n / count + 1) ++ List.replicate (count - n % count) (n / count)

def boundaries (start : Nat) : List Nat → List Nat
  | [] => [start]
  | n :: rest => start :: boundaries (start + n) rest

def cuts (n : Nat) (parts : Value) : Outcome (List (Option Int)) :=
  match parts.size with
  | .ok _ => do
    let places ← (← parts.items).mapM cutOf
    return [some 0] ++ places ++ [some (n : Int)]
  | .error _ => do
    let count ← parts.toInt
    if count ≤ 0 then throw .wrongValue
    return (boundaries 0 (evenLengths n count.toNat)).map fun (k : Nat) => some (k : Int)

def parted (parts : Value) : Value → Outcome Value
  | .floats (n :: rest) data => do
    let places ← cuts n parts
    return .list ((places.zip (places.drop 1)).map fun p => sliceOf n rest data p.1 p.2)
  | _ => .error .outOfRange

end EprBench.Table
