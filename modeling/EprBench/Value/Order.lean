import EprBench.Value.Numbers

/-! Equality and order of values. Numbers are compared by their exact size; an array is compared cell by cell, and the
comparison holds or fails only if it has no more than one cell. -/
namespace EprBench.Value

open Decimal

def compareFloats (x y : Float) : Option Ordering :=
  if x < y then some .lt else if y < x then some .gt else if x == y then some .eq else none

def Number.compare : Number → Number → Option Ordering
  | .int a, .int b => some (Ord.compare a b)
  | .int a, .float y => compareInt a y
  | .float x, .int b => (compareInt b x).map Ordering.swap
  | .float x, .float y => compareFloats x y

mutual

def same : Value → Value → Bool
  | .nothing, .nothing => true
  | .text a, .text b => a == b
  | .bytes a, .bytes b => a == b
  | .list a, .list b => sameAll a b
  | .tuple a, .tuple b => sameAll a b
  | .dict a, .dict b => a.length == b.length && sameEntries a b
  | .complex a b, .complex c d => a == c && b == d
  | .thing a, .thing b => a == b
  | a, b =>
    match a.number?, b.number? with
    | some x, some y => x.compare y == some .eq
    | _, _ => false

def sameAll : List Value → List Value → Bool
  | [], [] => true
  | x :: xs, y :: ys => same x y && sameAll xs ys
  | _, _ => false

def sameEntries : List (Value × Value) → List (Value × Value) → Bool
  | [], _ => true
  | e :: es, others => hasEntry e others && sameEntries es others

def hasEntry : Value × Value → List (Value × Value) → Bool
  | (k, v), others => others.any fun e => same k e.1 && same v e.2

end

def compare (a b : Value) : Outcome (Option Ordering) :=
  match a.number?, b.number? with
  | some x, some y => .ok (x.compare y)
  | _, _ =>
    match a, b with
    | .text s, .text t => .ok (some (Ord.compare s t))
    | .bytes s, .bytes t => .ok (some (compareOfLessAndEq s t))
    | _, _ => .error .wrongType

def compareCells (test : Option Ordering → Bool) (a b : Numbers) : Outcome Bool := do
  match a, b with
  | .whole s, .whole t => theOnly (← s.zipWith (fun x y => test (some (Ord.compare x y))) t).cells
  | _, _ => theOnly (← a.reals.zipWith (fun x y => test (compareFloats x y)) b.reals).cells

def related (test : Option Ordering → Bool) (a b : Value) : Outcome Bool := do
  if a.isArray || b.isArray then compareCells test (← a.numbers) (← b.numbers)
  else return test (← compare a b)

def lt : Value → Value → Outcome Bool := related (· == some .lt)
def le : Value → Value → Outcome Bool := related fun o => o == some .lt || o == some .eq
def gt (a b : Value) : Outcome Bool := lt b a
def ge (a b : Value) : Outcome Bool := le b a

def cellCount : Value → Nat
  | .floats _ data => data.size
  | .ints _ data => data.size
  | _ => 1

/-- Whether two values compare as equal, or as different, when one of them may be an array. An array without cells is
neither equal to anything nor different from it. -/
def compares (equal : Bool) (a b : Value) : Outcome Bool :=
  if a.isArray || b.isArray then
    match a.numbers, b.numbers with
    | .ok x, .ok y => compareCells (fun o => (o == some .eq) == equal) x y
    | _, _ => theOnly (List.replicate (if a.isArray then a else b).cellCount !equal)
  else .ok (same a b == equal)

def equals : Value → Value → Outcome Bool := compares true
def differs : Value → Value → Outcome Bool := compares false

def isOneOf (names : List String) (v : Value) : Outcome Bool :=
  match names with
  | [] => .ok false
  | name :: more => do if ← v.equals (.text name) then return true else v.isOneOf more

def placeAmong (others : List Value) (v : Value) : Outcome (Option Nat) :=
  match others with
  | [] => .ok none
  | w :: more => do
    if ← w.equals v then return some 0
    return (← v.placeAmong more).map (· + 1)

def within (low high v : Value) : Outcome Bool := do
  if ← v.ge low then v.le high else return false

end EprBench.Value
