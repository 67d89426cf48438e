import EprBench.Decimal.Parsing
import EprBench.Text.Pieces
import EprBench.Value.Order
import EprBench.Value.Text

/-! Taking a value for what a request needs: a whole number, a real number, the pieces of a text, an
element. A value that cannot be taken so is a fault of its own kind. -/
namespace EprBench

def pick {α : Type} (xs : List α) (i : Int) : Outcome α :=
  match Text.item? xs i with
  | some x => .ok x
  | none => .error .outOfRange

namespace Value

open Decimal

def truncated (x : Float) : Outcome Int :=
  match truncate? x with
  | some n => .ok n
  | none => if x != x then .error .wrongValue else .error .overflow

def realOfInt (n : Int) : Outcome Float :=
  let x := ofInt n
  if isFinite x then .ok x else .error .overflow

def orWrong {α : Type} : Option α → Outcome α
  | some x => .ok x
  | none => .error .wrongValue

def orNoKey {α : Type} : Option α → Outcome α
  | some x => .ok x
  | none => .error .noKey

def intOfText (s : String) : Outcome Int := orWrong (parseInt? s)

def realOfText (s : String) : Outcome Float := orWrong (parseFloat? s)

def charsOfBytes (bs : List UInt8) : String := String.ofList (bs.map fun b => Char.ofNat b.toNat)

def toInt : Value → Outcome Int
  | .bool b => .ok (if b then 1 else 0)
  | .int n => .ok n
  | .float x => truncated x
  | .text s => intOfText s
  | .bytes bs => orWrong (parseIntChars? (charsOfBytes bs).toList)
  | .floats _ data => if data.size = 1 then truncated (data.getD 0 0) else .error .wrongType
  | .ints _ data => if data.size = 1 then .ok (data.getD 0 0) else .error .wrongType
  | _ => .error .wrongType

def toReal : Value → Outcome Float
  | .bool b => .ok (if b then 1 else 0)
  | .int n => realOfInt n
  | .float x => .ok x
  | .text s => realOfText s
  | .bytes bs => orWrong (parseFloatChars? (charsOfBytes bs).toList)
  | .floats _ data => if data.size = 1 then .ok (data.getD 0 0) else .error .wrongType
  | .ints _ data => if data.size = 1 then realOfInt (data.getD 0 0) else .error .wrongType
  | _ => .error .wrongType

def asWhole : Value → Outcome Int
  | .bool b => .ok (if b then 1 else 0)
  | .int n => .ok n
  | _ => .error .wrongType

def asText : Value → Outcome String
  | .text s => .ok s
  | _ => .error .noMember

def pieces (sep : Char) : Value → Outcome (List String)
  | .text s => .ok (s.pieces sep)
  | .bytes _ => .error .wrongType
  | _ => .error .noMember

def rowsBetween {α : Type} (start stop : Option Int) (array : List Nat → Array α → Value) (data : Array α) :
    List Nat → Outcome Value
  | [] => .error .outOfRange
  | n :: rest =>
    let size := Tensor.volume rest
    let kept := Text.slice start stop (List.range n)
    let cells := kept.flatMap fun i => (data.extract (i * size) ((i + 1) * size)).toList
    .ok (array (kept.length :: rest) cells.toArray)

def slice (start stop : Option Int) : Value → Outcome Value
  | .text s => .ok (.text (s.part start stop))
  | .bytes bs => .ok (.bytes (Text.slice start stop bs))
  | .list xs => .ok (.list (Text.slice start stop xs))
  | .tuple xs => .ok (.tuple (Text.slice start stop xs))
  | .floats shape data => rowsBetween start stop .floats data shape
  | .ints shape data => rowsBetween start stop .ints data shape
  | _ => .error .wrongType

def slices {α : Type} (number : α → Value) (array : List Nat → Array α → Value) (data : Array α) :
    List Nat → Outcome (List Value)
  | [] => .error .wrongType
  | [_] => .ok (data.toList.map number)
  | n :: rest =>
    let size := Tensor.volume rest
    .ok ((List.range n).map fun i => array rest (data.extract (i * size) ((i + 1) * size)))

def items : Value → Outcome (List Value)
  | .list xs => .ok xs
  | .tuple xs => .ok xs
  | .set xs => .ok xs
  | .text s => .ok (s.toList.map fun c => .text (String.singleton c))
  | .bytes bs => .ok (bs.map fun b => .int b.toNat)
  | .dict es => .ok (es.map (·.1))
  | .floats shape data => slices .float .floats data shape
  | .ints shape data => slices .int .ints data shape
  | _ => .error .wrongType

def nth (i : Int) (v : Value) : Outcome Value :=
  match v with
  | .set _ => .error .wrongType
  | .dict es => orNoKey ((es.find? fun e => e.1.same (.int i)).map (·.2))
  | v => do pick (← v.items) i

def field (name : String) : Value → Outcome Value
  | .dict es => orNoKey ((es.find? fun e => e.1.same (.text name)).map (·.2))
  | .floats .. | .ints .. => .error .outOfRange
  | _ => .error .wrongType

def size : Value → Outcome Nat
  | .text s => .ok s.length
  | .bytes bs => .ok bs.length
  | .list xs => .ok xs.length
  | .tuple xs => .ok xs.length
  | .set xs => .ok xs.length
  | .dict es => .ok es.length
  | .floats (n :: _) _ => .ok n
  | .ints (n :: _) _ => .ok n
  | .complexes (n :: _) _ => .ok n
  | _ => .error .wrongType

def lookup {α : Type} (table : List (Value × α)) (key : Value) : Outcome (Option α) :=
  if key.isKey then .ok ((table.find? fun e => e.1.same key).map (·.2)) else .error .wrongType

def find {α : Type} (table : List (String × α)) (key : Value) : Outcome (Option α) :=
  match key with
  | .text s => .ok (table.lookup s)
  | v => if v.isKey then .ok none else .error .wrongType

def entry {α : Type} (table : List (String × α)) (key : Value) : Outcome α := do
  orNoKey (← find table key)

/-- The entry of a table under the name that a value equals; the names are compared one after the other. -/
def choice {α : Type} (table : List (String × α)) (v : Value) : Outcome (Option α) :=
  match table with
  | [] => .ok none
  | (name, x) :: more => do if ← v.equals (.text name) then return some x else v.choice more

def isText (s : String) : Value → Bool
  | .text t => t == s
  | _ => false

end Value

def nameOf {α : Type} [BEq α] (table : List (String × α)) (x : α) : Value :=
  match table.find? (·.2 == x) with
  | some e => .text e.1
  | none => .nothing

end EprBench
