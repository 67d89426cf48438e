import EprBench.Fault

/-! Values that pass between a measurement script and an instrument: the arguments of a request and its answer. -/
namespace EprBench

inductive Value where
  | nothing
  | bool (b : Bool)
  | int (n : Int)
  | float (x : Float)
  | complex (re im : Float)
  | text (s : String)
  | bytes (bs : List UInt8)
  | list (xs : List Value)
  | tuple (xs : List Value)
  | dict (entries : List (Value × Value))
  | set (xs : List Value)
  /-- An array of doubles in row-major order. -/
  | floats (shape : List Nat) (data : Array Float)
  | ints (shape : List Nat) (data : Array Int)
  | complexes (shape : List Nat) (data : Array (Float × Float))
  | samples (data : Array Int)
  /-- The first values of an endless series. -/
  | series (xs : List Value)
  | thing (kind : String)
  deriving Inhabited

namespace Value

instance : Coe String Value := ⟨.text⟩
instance : Coe Int Value := ⟨.int⟩
instance : Coe Float Value := ⟨.float⟩
instance : Coe Bool Value := ⟨.bool⟩
instance : OfNat Value n := ⟨.int n⟩

def floatRow (xs : Array Float) : Value := .floats [xs.size] xs

def intRow (xs : Array Int) : Value := .ints [xs.size] xs

inductive Number where
  | int (n : Int)
  | float (x : Float)

/-- The number a value is; truth values count as 0 and 1. -/
def number? : Value → Option Number
  | .bool b => some (.int (if b then 1 else 0))
  | .int n => some (.int n)
  | .float x => some (.float x)
  | _ => none

def text? : Value → Option String
  | .text s => some s
  | _ => none

/-- Values with no fixed content cannot be looked up. -/
def isKey : Value → Bool
  | .list _ | .dict _ | .set _ | .floats .. | .ints .. | .complexes .. => false
  | _ => true

end Value
end EprBench
