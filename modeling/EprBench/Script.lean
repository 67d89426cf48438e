import EprBench.Plot.Client

/-! Tools of a measurement script: messages, pauses, loops, plots, rounding. In a rehearsal nothing is
shown, drawn or waited for. -/
namespace EprBench.Script

def messageText : List Value → String
  | [v] => v.display
  | vs => Value.literal (.tuple vs)

def unitsPerSecond : List (String × Float) :=
  [("ks", 0.001), ("s", 1), ("ms", 1000), ("us", 1000000), ("ns", 1000000000), ("ps", 1000000000000)]

def wait (interval : Value) : Work Unit := do
  let words ← interval.pieces ' '
  let time ← Value.realOfText (← pick words 0)
  let unit ← pick words 1
  match unitsPerSecond.lookup unit with
  | some count => if ← Bench.isLive then Bench.sleep (time / count)
  | none =>
    if ← Bench.isLive then Bench.message "Incorrect dimension of time to wait"
    else throw (.refused "Incorrect dimension of time to wait")

def seriesLength : Nat := 60

/-- Counts up from zero: without end, or to 50 in a rehearsal. -/
def toInfinity (mode : Mode) : List Int :=
  (List.range (if mode == .live then seriesLength else 50)).map fun (n : Nat) => (n : Int)

def scans (mode : Mode) (count : Value) : Outcome (List Int) :=
  match mode with
  | .rehearsal => .ok [1]
  | .live => do
    let numbers := (List.range seriesLength).map fun (n : Nat) => ((n + 1 : Nat) : Int)
    let kept ← numbers.mapM fun n => (Value.int n).le count
    return ((numbers.zip kept).takeWhile (·.2)).map (·.1)

def series (xs : List Int) : Value := .series (xs.map .int)

def constShift (x shift : Value) : Outcome String := do
  let words ← x.pieces ' '
  let start ← pick words 0 >>= Value.intOfText
  return (← (Value.int start).plus shift).display ++ " ns"

def roundToBase (x base : Value) : Outcome Value := do
  base.times (← (← x.dividedBy base).nearest)

/-- Draws at once, or in a thread of its own when one is given; what fails in a thread does not show. -/
def drawing (thread : Value) (frames : Outcome (List Plot.Frame)) : Work Value := do
  if !(← Bench.isLive) then return .nothing
  if ← thread.equals "None" then
    let frames ← frames
    frames.forM Plot.send
    return .nothing
  else
    Bench.note .startThread
    match frames with
    | .error _ => return .thing "Thread"
    | .ok frames =>
      tryCatch (frames.forM Plot.send) fun _ => return
      return .thing "Thread"

def drawNow (frames : Outcome (List Plot.Frame)) : Work Value := drawing "None" frames

def curveParameters : List Parameter :=
  Plot.Client.textParameters [("label", "label"), ("xname", "X"), ("xscale", "arb. u."), ("yname", "Y"),
    ("yscale", "arb. u."), ("scatter", "False"), ("timeaxis", "False"), ("vline", "False")]

def surfaceParameters : List Parameter :=
  Plot.Client.textParameters [("start_step", .nothing), ("xname", "X"), ("xscale", "arb. u."), ("yname", "Y"),
    ("yscale", "arb. u."), ("zname", "Z"), ("zscale", "arb. u.")]

def commands : List (Command Unit) := [
  .variadic "message" fun vs => do
    Bench.message (messageText vs)
    return .nothing,
  .unary "wait" "interval" fun v => do
    wait v
    return .nothing,
  .plain "to_infinity" (return series (toInfinity (← getThe Bench).mode)),
  .unary "scans" "num_of_scans" fun v => return series (← scans (← getThe Bench).mode v),
  { name := "plot_1d"
    parameters := [.needed "strname", .needed "xd", .needed "yd"] ++ curveParameters ++
      [.withDefault "pr" "None", .withDefault "text" ""]
    run := fun g => match g.values with
      | [name, xs, ys, l, xn, xc, yn, yc, sc, ta, vl, pr, text] =>
        drawing pr (Plot.plotCurve name xs ys ⟨l, xn, xc, yn, yc, sc, ta, vl⟩ text)
      | _ => throw .wrongType },
  { name := "append_1d"
    parameters := [.needed "strname", .needed "value", .withDefault "start_step" Plot.Client.startStep] ++
      curveParameters
    run := fun g => match g.values with
      | [name, v, st, l, xn, xc, yn, yc, _, ta, vl] =>
        drawNow (return Plot.appendPoint name v st ⟨l, xn, xc, yn, yc, "False", ta, vl⟩)
      | _ => throw .wrongType },
  { name := "plot_2d"
    parameters := [.needed "strname", .needed "data"] ++ surfaceParameters ++
      [.withDefault "pr" "None", .withDefault "text" ""]
    run := fun g => match g.values with
      | [name, data, st, xn, xs, yn, ys, zn, zs, pr, text] =>
        drawing pr (Plot.plotSurface name data ⟨st, xn, xs, yn, ys, zn, zs⟩ text)
      | _ => throw .wrongType },
  { name := "append_2d"
    parameters := [.needed "strname", .needed "data"] ++ surfaceParameters
    run := fun g => match g.values with
      | [name, data, st, xn, xs, yn, ys, zn, zs] =>
        drawNow (Plot.appendRow name data ⟨st, xn, xs, yn, ys, zn, zs⟩)
      | _ => throw .wrongType },
  { name := "text_label"
    parameters := [.needed "strlabel", .needed "text", .needed "value", .withDefault "pr" "None"]
    run := fun g => match g.values with
      | [name, text, v, pr] => drawing pr (return Plot.putLabel name (.text (text.display ++ v.display)))
      | _ => throw .wrongType },
  .unary "plot_remove" "strname" fun v => drawNow (return Plot.removePlot v),
  .fixed "round_to_closest" ["x", "y"] fun
    | [x, y] => return .int (← x.multipleOf y)
    | _ => throw .wrongType,
  .fixed "const_shift" ["x", "shift"] fun
    | [x, y] => return .text (← constShift x y)
    | _ => throw .wrongType,
  .fixed "numpy_round" ["x", "base"] fun
    | [x, y] => return ← roundToBase x y
    | _ => throw .wrongType]

def tools : Instrument where
  State := Unit
  start := return ()
  commands := commands

end EprBench.Script
