import EprBench.Fit.Triangle

/-! A step of bounded length towards the least squares of a linear model. -/
namespace EprBench.Fit

structure Step where
  change : List Float
  damping : Float

structure Bound where
  rows : List (List Float × Float)
  scale : List Float
  radius : Float

namespace Bound

def excess (b : Bound) (change : List Float) : Float := length (times b.scale change) - b.radius

def correction (b : Bound) (rows : List (List Float × Float)) (change : List Float) (excess : Float) : Float :=
  let reach := times b.scale change
  let size := length reach
  let w := Triangle.solveTransposed (rows.map (·.1)) (List.zipWith (fun s r => s * (r / size)) b.scale reach)
  let slope := length w
  excess / b.radius / slope / slope

def isClose (b : Bound) (excess : Float) : Bool := excess.abs ≤ 0.1 * b.radius

def refine (b : Bound) : Nat → (low high damping excess : Float) → Step
  | 0, _, _, damping, _ => ⟨[], damping⟩
  | count + 1, low, high, damping, before =>
    let damping := if damping == 0 then larger tiny (0.001 * high) else damping
    let rows := Triangle.damp (b.scale.map (Float.sqrt damping * ·)) b.rows
    let change := Triangle.solve rows
    let excess := b.excess change
    if b.isClose excess || (low == 0 && excess ≤ before && before < 0) || count = 0 then ⟨change, damping⟩
    else
      let next := damping + b.correction rows change excess
      let low := if excess > 0 then larger low damping else low
      let high := if excess < 0 then smaller high damping else high
      refine b count low high (larger low next) excess

def corrections : Nat := 10

def step (b : Bound) (slopes : List Float) (damping : Float) : Step :=
  let free := Triangle.solve b.rows
  let excess := b.excess free
  if excess ≤ 0.1 * b.radius then ⟨free, 0⟩
  else
    let regular := (Triangle.diagonal b.rows).all (· != 0)
    let low := if regular then b.correction b.rows free excess else 0
    let slope := length slopes
    let high := slope / b.radius
    let high := if high == 0 then tiny / smaller b.radius 0.1 else high
    let start := smaller (larger damping low) high
    let start := if start == 0 then slope / (excess + b.radius) else start
    b.refine corrections low high start excess

end Bound
end EprBench.Fit
