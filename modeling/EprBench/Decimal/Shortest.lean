import EprBench.Decimal.Binary

/-! The fewest decimal digits that read back as the same double, and of those the nearest, in exact arithmetic. -/
namespace EprBench.Decimal

structure Digits where
  digits : Nat
  exponent : Int
  deriving Repr, DecidableEq

/-- The value and the halfway points to its neighbours, over one denominator. -/
structure Window where
  low : Nat
  value : Nat
  high : Nat
  den : Nat
  closed : Bool

def window (significand : Nat) (exponent : Int) : Window :=
  let narrow := significand = twoTo 52 ∧ exponent > -1074
  let e := exponent - 2
  let up := if e < 0 then 1 else twoTo e.natAbs
  { low := (4 * significand - (if narrow then 1 else 2)) * up
    value := 4 * significand * up
    high := (4 * significand + 2) * up
    den := if e < 0 then twoTo e.natAbs else 1
    closed := significand % 2 = 0 }

def decimalExponent (num den : Nat) : Int :=
  let guess := (binaryExponent num den * 30103).fdiv 100000
  let atLeast (k : Int) : Bool :=
    if k < 0 then decide (den ≤ num * tenTo k.natAbs) else decide (den * tenTo k.natAbs ≤ num)
  if atLeast (guess + 1) then guess + 1
  else if atLeast guess then guess
  else if atLeast (guess - 1) then guess - 1
  else guess - 2

def gridPoint (n : Nat) (k : Int) : Nat × Nat :=
  if k < 0 then (n, tenTo k.natAbs) else (n * tenTo k.natAbs, 1)

def Window.holds (w : Window) (p : Nat × Nat) : Bool :=
  let a := w.low * p.2
  let b := p.1 * w.den
  let c := w.high * p.2
  if w.closed then decide (a ≤ b ∧ b ≤ c) else decide (a < b ∧ b < c)

def Window.pick (w : Window) (k : Int) : Option Nat :=
  let scaledNum := if k < 0 then w.value * tenTo k.natAbs else w.value
  let scaledDen := if k < 0 then w.den else w.den * tenTo k.natAbs
  let below := scaledNum / scaledDen
  let twice := 2 * (scaledNum % scaledDen)
  let lowIn := w.holds (gridPoint below k)
  let highIn := w.holds (gridPoint (below + 1) k)
  if lowIn && highIn then
    if twice < scaledDen then some below
    else if twice > scaledDen then some (below + 1)
    else some (if below % 2 = 0 then below else below + 1)
  else if lowIn then some below
  else if highIn then some (below + 1)
  else none

def Window.search (w : Window) (top : Int) : Nat → Nat → Digits
  | 0, _ => ⟨0, 0⟩
  | fuel + 1, count =>
    let k := top - (count : Int) + 1
    match w.pick k with
    | some n => ⟨n, k⟩
    | none => w.search top fuel (count + 1)

def shortest (significand : Nat) (exponent : Int) : Digits :=
  let w := window significand exponent
  w.search (decimalExponent w.value w.den) 18 1

end EprBench.Decimal
