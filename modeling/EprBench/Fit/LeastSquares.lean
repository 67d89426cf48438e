import EprBench.Fit.Step

/-! Nonlinear least squares: a bounded step of the straight model is tried, and the bound follows how well it foretold
the result. -/
namespace EprBench.Fit

abbrev Deviations := List Float → List Float

structure Limits where
  tolerance : Float := 1.49012e-8
  factor : Float := 100
  evaluations : Nat

structure Search where
  parameters : List Float
  deviations : List Float
  size : Float
  scale : List Float := []
  radius : Float := 0
  damping : Float := 0
  extent : Float := 0
  evaluations : Nat
  atStart : Bool := true

structure Linear where
  triangle : Triangle
  lengths : List Float
  slant : Float

def derivative (f : Deviations) (parameters deviations : List Float) (i : Nat) (x : Float) : List Float :=
  let h := Float.sqrt precision * x.abs
  let h := if h == 0 then Float.sqrt precision else h
  List.zipWith (fun a b => (a - b) / h) (f (parameters.set i (x + h))) deviations

def placed (order : List Nat) (xs : List Float) : List Float := order.map fun i => xs.getD i 0

def unplaced (order : List Nat) (xs : List Float) : List Float :=
  (List.range order.length).map fun i => ((order.zip xs).lookup i).getD 0

namespace Search

def linear (f : Deviations) (s : Search) : Linear :=
  let columns := s.parameters.zipIdx.map fun p => derivative f s.parameters s.deviations p.2 p.1
  let triangle := Triangle.ofColumns columns s.deviations
  let lengths := columns.map length
  let targets := triangle.targets.map (· / s.size)
  let cosines := List.zipWith (fun column size => if size == 0 then 0 else (dot column targets / size).abs)
    triangle.columns (placed triangle.order lengths)
  { triangle, lengths, slant := if s.size == 0 then 0 else cosines.foldl larger 0 }

def rescaled (limits : Limits) (l : Linear) (s : Search) : Search :=
  if s.atStart then
    let scale := l.lengths.map fun x => if x == 0 then 1 else x
    let extent := length (times scale s.parameters)
    let radius := limits.factor * extent
    { s with scale, extent, radius := if radius == 0 then limits.factor else radius }
  else { s with scale := List.zipWith larger s.scale l.lengths }

structure Trial where
  parameters : List Float
  deviations : List Float
  size : Float
  pace : Float
  damping : Float
  gained : Float
  foretold : Float
  slope : Float

def Trial.ratio (t : Trial) : Float := if t.foretold == 0 then 0 else t.gained / t.foretold

def trial (f : Deviations) (l : Linear) (s : Search) : Trial :=
  let order := l.triangle.order
  let scale := placed order s.scale
  let slopes := List.zipWith (fun column size => dot column l.triangle.targets / size) l.triangle.columns scale
  let step := Bound.step ⟨l.triangle.rows, scale, s.radius⟩ slopes s.damping
  let change := step.change.map (- ·)
  let pace := length (times scale change)
  let parameters := List.zipWith (· + ·) s.parameters (unplaced order change)
  let deviations := f parameters
  let size := length deviations
  let part := size / s.size
  let straight := length (l.triangle.rows.zipIdx.map fun r => dot r.1.1 (change.drop r.2)) / s.size
  let damped := Float.sqrt step.damping * pace / s.size
  { parameters, deviations, size, pace, damping := step.damping
    gained := if 0.1 * size < s.size then 1 - part * part else -1
    foretold := straight * straight + damped * damped / 0.5
    slope := -(straight * straight + damped * damped) }

def adjusted (s : Search) (t : Trial) : Search :=
  let radius := if s.atStart then smaller s.radius t.pace else s.radius
  if t.ratio ≤ 0.25 then
    let shrink := if t.gained < 0 then 0.5 * t.slope / (t.slope + 0.5 * t.gained) else 0.5
    let shrink := if 0.1 * t.size ≥ s.size || shrink < 0.1 then 0.1 else shrink
    { s with radius := shrink * smaller radius (t.pace / 0.1), damping := t.damping / shrink }
  else if t.damping == 0 || t.ratio ≥ 0.75 then { s with radius := t.pace / 0.5, damping := 0.5 * t.damping }
  else { s with radius, damping := t.damping }

def taken (s : Search) (t : Trial) : Search :=
  if t.ratio ≥ 0.0001 then
    { s with parameters := t.parameters, deviations := t.deviations, size := t.size,
             extent := length (times s.scale t.parameters), atStart := false }
  else s

def squaresSettled (tolerance : Float) (t : Trial) : Bool :=
  t.gained.abs ≤ tolerance && t.foretold ≤ tolerance && 0.5 * t.ratio ≤ 1

def settled (tolerance : Float) (s : Search) (t : Trial) : Bool :=
  squaresSettled tolerance t || s.radius ≤ tolerance * s.extent

def run (f : Deviations) (limits : Limits) : Nat → Search → Linear → Option (List Float)
  | 0, _, _ => none
  | fuel + 1, s, l =>
    let t := s.trial f l
    let s := { (s.adjusted t).taken t with evaluations := s.evaluations + 1 }
    if s.settled limits.tolerance t then some s.parameters
    else if s.evaluations ≥ limits.evaluations || s.settled precision t || l.slant ≤ precision then none
    else if t.ratio < 0.0001 then run f limits fuel s l
    else
      let l := s.linear f
      let s := { s.rescaled limits l with evaluations := s.evaluations + s.parameters.length }
      if l.slant ≤ 0 then some s.parameters else run f limits fuel s l

end Search

/-- Parameters that make the squares of the deviations least, from a first guess. Without success there are none. -/
def leastSquares (f : Deviations) (guess : List Float) : Option (List Float) :=
  let limits : Limits := { evaluations := 200 * (guess.length + 1) }
  let deviations := f guess
  let s : Search := { parameters := guess, deviations, size := length deviations, evaluations := 1 + guess.length }
  let l := s.linear f
  if l.slant ≤ 0 then some guess else Search.run f limits limits.evaluations (s.rescaled limits l) l

end EprBench.Fit
