import EprBench.Quantity.Sum

/-! From the samples of a digitizer to curves in volts and their integrals. -/
namespace EprBench.Digitizer

variable {α : Type} [Quantity α]

open Quantity

def everySecond {β : Type} : List β → List β
  | [] => []
  | [x] => [x]
  | x :: _ :: rest => x :: everySecond rest

def total (codes : List Int) : Int := codes.foldl (· + ·) 0

inductive Channel where
  | first
  | second
  deriving Repr, DecidableEq

def lane {β : Type} : Channel → List β → List β
  | .first, xs => everySecond xs
  | .second, xs => everySecond (xs.drop 1)

inductive Inputs where
  | one (channel : Channel)
  | both
  deriving Repr, DecidableEq

namespace Inputs

def count : Inputs → Nat
  | .one _ => 1
  | .both => 2

end Inputs

inductive Want where
  | curve
  | integral
  | curveAndIntegral
  | unknown
  deriving Repr, DecidableEq

/-- What a script gets of a recording. The curves come with the times of their points in seconds. -/
inductive Result (α : Type) where
  | curve (times values : List α)
  | curves (times first second : List α)
  | integral (x : α)
  | integrals (first second : α)
  | curvesAndIntegrals (times first second : List α) (x y : α)
  | nothing

structure Scale (α : Type) where
  /-- Ranges of the two channels in millivolts. -/
  range0 : Int
  range1 : Int
  /-- The sample that stands for the whole range. -/
  fullScale : Int
  /-- In megahertz. -/
  rate : α

/-- Segments of equal length. One of their number and their length may be left open by a negative number. -/
def segments {β : Type} (number length : Int) (xs : List β) : Outcome (List (List β)) :=
  let n := xs.length
  let fill (known : Nat) (build : Nat → List (List β)) : Outcome (List (List β)) :=
    if known ≠ 0 ∧ n % known = 0 then .ok (build (n / known)) else .error .wrongValue
  match number, length with
  | .ofNat k, .ofNat m => if k * m = n then .ok (rows m k xs) else .error .wrongValue
  | .negSucc _, .ofNat m => fill m fun k => rows m k xs
  | .ofNat k, .negSucc _ => fill k fun m => rows m k xs
  | .negSucc _, .negSucc _ => .error .wrongValue

def mean (length : Nat) (segments : List (List α)) : List α :=
  (addRows (List.replicate length zero) segments).map (· / ofInt segments.length)

def meanOf (length : Nat) (segments : List (List α)) : Outcome (List α) :=
  if length = 0 then .error .divisionByZero else .ok (mean length segments)

def segmentLength {β : Type} (length : Int) (segments : List (List β)) : Nat :=
  match length with
  | .ofNat m => m
  | .negSucc _ => (segments.head?.map List.length).getD 0

def meanBoth (averages points : Int) (codes : List Int) : Outcome (List α) := do
  let parts ← segments averages (2 * points) codes
  meanOf (segmentLength (2 * points) parts) (parts.map fun p => p.map fun n => (ofInt n : α))

namespace Scale

variable (s : Scale α)

def range : Channel → Int
  | .first => s.range0
  | .second => s.range1

def fullRange (c : Channel) : α := ofInt (s.range c) / ofInt 1000

def volts (c : Channel) (x : α) : α := x * s.fullRange c / ofInt s.fullScale

def times (n : Nat) : List α := (List.range n).map fun (i : Nat) => ofInt i / (s.rate * ofInt 1000000)

def step : Outcome α := quotient (decimal 1 6) s.rate

def single (inputs : Inputs) (codes : List Int) : Result α :=
  match inputs with
  | .one c =>
    let values := codes.map fun n => s.volts c (ofInt n)
    .curve (s.times values.length) values
  | .both =>
    let first := (lane .first codes).map fun n => s.volts .first (ofInt n)
    let second := (lane .second codes).map fun n => s.volts .second (ofInt n)
    .curves (s.times first.length) first second

def meanOne (c : Channel) (averages points : Int) (codes : List Int) : Outcome (List α) := do
  let parts ← segments averages points codes
  meanOf (segmentLength points parts) (parts.map fun p => p.map fun n => s.volts c (ofInt n))

def integrate (c : Channel) (total : α) (weight : Int) : Outcome α :=
  return total * (← s.step) * s.fullRange c / ofInt weight

/-- A recording of many shots, one channel of which is recorded. Half of the memory is looked at. -/
def averagedOne (c : Channel) (want : Want) (window : Option Window) (averages points : Int)
    (codes : List Int) : Outcome (Result α) := do
  let codes := codes.take (codes.length / 2)
  match want, window with
  | .curve, _ =>
    let values ← s.meanOne c averages points codes
    return .curve (s.times values.length) values
  | .integral, some w =>
    let values ← s.meanOne c averages points codes
    return .integral (sum (w.cut values) * (← s.step))
  | .integral, none =>
    return .integral (s.fullRange c * ofInt (total codes) * (← s.step) / ofInt (s.fullScale * averages))
  | _, _ => return .nothing

def averagedBoth (want : Want) (read : Bool) (window : Window) (averages points : Int)
    (codes : List Int) : Outcome (Result α) := do
  let windowed (c : Channel) (values : List α) : Outcome α :=
    s.integrate c (sum (window.cut (lane c values))) s.fullScale
  match want with
  | .curve =>
    let values ← meanBoth averages points codes
    let first := (lane .first values).map (s.volts .first)
    return .curves (s.times first.length) first ((lane .second values).map (s.volts .second))
  | .integral =>
    if read then
      let values ← meanBoth averages points codes
      return .integrals (← windowed .first values) (← windowed .second values)
    else
      let whole (c : Channel) : Outcome α :=
        s.integrate c (ofInt (total (lane c codes))) (s.fullScale * averages)
      return .integrals (← whole .first) (← whole .second)
  | .curveAndIntegral =>
    let values ← meanBoth averages points codes
    let first := (lane .first values).map (s.volts .first)
    return .curvesAndIntegrals (s.times first.length) first ((lane .second values).map (s.volts .second))
      (← windowed .first values) (← windowed .second values)
  | .unknown => return .nothing

end Scale

end EprBench.Digitizer
