import EprBench.Tensor

/-! Linear least squares by orthogonal reduction: columns are reflected, the longest first, until a triangle is left.
-/
namespace EprBench.Fit

def larger (a b : Float) : Float := if b > a then b else a

def smaller (a b : Float) : Float := if b < a then b else a

def precision : Float := Float.scaleB 1 (-52)

def tiny : Float := Float.scaleB 1 (-1022)

def sum (xs : List Float) : Float := xs.foldl (· + ·) 0

def dot (xs ys : List Float) : Float := sum (List.zipWith (· * ·) xs ys)

def length (xs : List Float) : Float :=
  let most := xs.foldl (fun m x => larger m x.abs) 0
  if xs.any Float.isNaN then 0.0 / 0.0
  else if most == 0 || most.isInf then most
  else most * Float.sqrt (sum (xs.map fun x => (x / most) * (x / most)))

def times (xs ys : List Float) : List Float := List.zipWith (· * ·) xs ys

structure Column where
  parameter : Nat
  above : List Float := []
  rest : List Float
  size : Float
  reference : Float

namespace Column

def ofEntries (parameter : Nat) (entries : List Float) : Column :=
  let size := length entries
  { parameter, rest := entries, size, reference := size }

def reflect (v xs : List Float) : List Float :=
  let step := dot v xs / v.headD 1
  List.zipWith (fun x w => x - step * w) xs v

def shortened (c : Column) (first : Float) (rest : List Float) : Column :=
  let done := { c with above := c.above ++ [first], rest }
  if c.size == 0 then done
  else
    let part := first / c.size
    let size := c.size * Float.sqrt (larger 0 (1 - part * part))
    let share := size / c.reference
    if 0.05 * (share * share) ≤ precision then
      let size := length rest
      { done with size, reference := size }
    else { done with size }

def advance (v : List Float) (c : Column) : Column :=
  match reflect v c.rest with
  | [] => c
  | first :: rest => c.shortened first rest

def pass (c : Column) : Column :=
  { c with above := c.above ++ c.rest.take 1, rest := c.rest.tail }

end Column

def longestFirst (columns : List Column) : List Column :=
  match columns with
  | [] => []
  | c :: cs =>
    let best := cs.zipIdx.foldl (fun b x => if x.1.size > b.1.size then (x.1, some x.2) else b) (c, none)
    match best with
    | (_, none) => c :: cs
    | (d, some i) => d :: cs.set i c

/-- A triangle with its right side. Places are counted in the order in which the columns were taken. -/
structure Triangle where
  rows : List (List Float × Float) := []
  order : List Nat := []

def reduce : Nat → List Column → List Float → List (Column × Float)
  | 0, _, _ => []
  | count + 1, columns, target =>
    match longestFirst columns with
    | [] => []
    | c :: cs =>
      let size := length c.rest
      if size == 0 then
        ({ c with above := c.above ++ [0] }, target.headD 0) :: reduce count (cs.map Column.pass) target.tail
      else
        let size := if c.rest.headD 0 < 0 then -size else size
        let v := match c.rest.map (· / size) with
          | [] => []
          | x :: xs => (x + 1) :: xs
        let turned := Column.reflect v target
        ({ c with above := c.above ++ [-size] }, turned.headD 0) ::
          reduce count (cs.map (Column.advance v)) turned.tail

def Triangle.ofColumns (columns : List (List Float)) (target : List Float) : Triangle :=
  let done := reduce columns.length (columns.zipIdx.map fun c => Column.ofEntries c.2 c.1) target
  let entries := done.map (·.1.above)
  { rows := done.zipIdx.map fun d => ((entries.drop d.2).filterMap (·[d.2]?), d.1.2)
    order := done.map (·.1.parameter) }

namespace Triangle

def diagonal (rows : List (List Float × Float)) : List Float := rows.map fun r => r.1.headD 0

def columns (t : Triangle) : List (List Float) :=
  (List.range t.rows.length).map fun j => (t.rows.zipIdx.take (j + 1)).filterMap fun r => r.1.1[j - r.2]?

def targets (t : Triangle) : List Float := t.rows.map (·.2)

def solveRows (rows : List (List Float × Float)) : List Float :=
  rows.foldr (fun row later =>
    match row.1 with
    | [] => later
    | d :: ds => (row.2 - dot ds later) / d :: later) []

def solve (rows : List (List Float × Float)) : List Float :=
  let leading := rows.takeWhile fun r => r.1.headD 0 != 0
  solveRows leading ++ List.replicate (rows.length - leading.length) 0

def solveTransposed : List (List Float) → List Float → List Float
  | (d :: ds) :: rows, b :: bs =>
    let x := b / d
    x :: solveTransposed rows (List.zipWith (fun b s => b - s * x) bs ds)
  | _, _ => []

def rotation (r e : Float) : Float × Float :=
  if r.abs < e.abs then
    let cotangent := r / e
    let sine := 0.5 / Float.sqrt (0.25 + 0.25 * (cotangent * cotangent))
    (sine * cotangent, sine)
  else
    let tangent := e / r
    let cosine := 0.5 / Float.sqrt (0.25 + 0.25 * (tangent * tangent))
    (cosine, cosine * tangent)

def absorb : List Float → Float → List (List Float × Float) → List (List Float × Float)
  | e :: es, t, (r :: rs, b) :: rows =>
    if e == 0 then (r :: rs, b) :: absorb es t rows
    else
      let (c, s) := rotation r e
      let row := (c * r + s * e) :: List.zipWith (fun x y => c * x + s * y) rs es
      let extra := List.zipWith (fun x y => -s * x + c * y) rs es
      (row, c * b + s * t) :: absorb extra (-s * b + c * t) rows
  | _, _, rows => rows

def damp : List Float → List (List Float × Float) → List (List Float × Float)
  | d :: ds, rows =>
    let zeros := List.replicate ds.length 0
    match if d == 0 then rows else absorb (d :: zeros) 0 rows with
    | [] => []
    | row :: rest => row :: damp ds rest
  | [], _ => []

end Triangle
end EprBench.Fit
