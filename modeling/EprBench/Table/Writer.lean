import EprBench.Bench.File
import EprBench.Table.Reader
import EprBench.Value.Operand

/-! Tables of numbers written to text files: the table itself, its further slices, and the parameters kept beside it. -/
namespace EprBench.Table

open Value (Number)

def extension : String := ".csv"

def stem (path : String) : String := (path.piecesOn extension).headD ""

def slicePath (path : String) : Nat → String
  | 0 => path
  | i + 1 => stem path ++ "_" ++ Decimal.natText (i + 1) ++ extension

def parameterPath (path ending : String) : String := stem path ++ ending

def numberText (x : Float) : String := Decimal.scientificText 5 x

def cellReal (v : Value) : Outcome Float :=
  match v.number? with
  | some n => n.real
  | none => .error .wrongType

def rowText (cells : List Value) : Outcome String := do
  return ",".intercalate ((← cells.mapM cellReal).map numberText) ++ "\n"

def headerText (mark : String) (header : Value) : Outcome String := do
  if (← header.size) = 0 then return ""
  match header with
  | .text s => return mark ++ s.substitute "\n" ("\n" ++ mark) ++ "\n"
  | .bytes _ => throw .wrongType
  | _ => throw .noMember

def rowsOf (t : Tensor Value) : Outcome (List (List Value)) :=
  match t.shape with
  | [_] => .ok (t.cells.map ([·]))
  | [n, m] => .ok (Tensor.pieces n m t.cells)
  | _ => .error .wrongValue

/-- In an array with a text every cell is one. -/
def holdsText (cells : List Value) : Bool := cells.any fun v => v.text?.isSome

def writeRows (h : Bench.Handle) : List (List Value) → Work Unit
  | [] => return
  | row :: rest => do
    let h ← h.write (← rowText row)
    writeRows h rest

def write (h : Bench.Handle) (mark : String) (header : Value) (table : Tensor Value) : Work Unit := do
  let rows ← rowsOf table
  let top ← headerText mark header
  let h ← if top.isEmpty then pure h else h.write top
  if holdsText table.cells && !rows.isEmpty then throw .wrongType
  writeRows h rows

/-- The name of a file to open. A number is the number of an open file, and there is none here. -/
def pathOf : Value → Outcome String
  | .text s => .ok s
  | .bytes bs =>
    match String.fromUTF8? ⟨bs.toArray⟩ with
    | some s => .ok s
    | none => .error .fileMissing
  | .int n => .error (if n < 0 then .wrongValue else if n < twoTo 31 then .system else .wrongType)
  | .bool _ => .error .system
  | _ => .error .wrongType

def openWith (path mode : Value) : Work Bench.Handle := do
  let name ← match mode with
    | .text _ => liftM (pathOf path)
    | _ => throw .wrongType
  match mode with
  | .text s => do
    let opening ← Bench.Opening.ofText s
    Bench.openFile name opening
  | _ => throw .wrongType

def save (path : Value) (mark : String) (header : Value) (table : Outcome (Tensor Value)) : Work Unit := do
  match path with
  | .text s =>
    let h ← Bench.openFile s ⟨.replace, false⟩
    write h mark header (← table)
  | _ => throw .wrongValue

def mark : String := "# "

def sliceFile (path : Value) : Nat → Outcome Value
  | 0 => .ok path
  | i + 1 =>
    match path with
    | .text s => .ok (.text (slicePath s (i + 1)))
    | .bytes _ => .error .wrongType
    | _ => .error .noMember

def saveSlices (path header mode : Value) (shape : List Nat) : Nat → List (List Value) → Work Unit
  | _, [] => return
  | i, cells :: rest => do
    let h ← openWith (← sliceFile path i) mode
    write h mark header (Tensor.transposed ⟨shape, cells⟩)
    saveSlices path header mode shape (i + 1) rest

def saveData (path data header mode : Value) : Work Unit := do
  let shape ← data.arrayShape
  let (_, cells) ← data.cells
  match shape with
  | [_, _] => write (← openWith path mode) mark header ⟨shape, cells⟩
  | [k, n, m] => saveSlices path header mode [n, m] 0 (Tensor.pieces k (n * m) cells)
  | _ => return

end EprBench.Table
