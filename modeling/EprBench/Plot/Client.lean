import EprBench.Command
import EprBench.Plot.Frame
import EprBench.Value.Elementwise

/-! The plot window as a script sees it. -/
namespace EprBench.Plot

open Value (Number)

structure Curve where
  label : Value := ""
  xName : Value := "X axis"
  xScale : Value := "arb. u."
  yName : Value := "Y axis"
  yScale : Value := "arb. u."
  scatter : Value := "False"
  timeAxis : Value := "False"
  vline : Value := "False"

def Curve.properties (c : Curve) : Options :=
  [("rank", 1), ("label", c.label), ("X", c.xScale), ("Y", c.yScale), ("Xname", c.xName), ("Yname", c.yName),
    ("Scatter", c.scatter), ("TimeAxis", c.timeAxis), ("Vline", c.vline)]

structure Surface where
  startStep : Value := .nothing
  xName : Value := "X axis"
  xScale : Value := "arb. u."
  yName : Value := "Y axis"
  yScale : Value := "arb. u."
  zName : Value := "Y axis"
  zScale : Value := "arb. u."

def Surface.properties (s : Surface) : Options :=
  [("rank", 2), ("start_step", s.startStep), ("X", s.xScale), ("Y", s.yScale), ("Z", s.zScale),
    ("Xname", s.xName), ("Yname", s.yName), ("Zname", s.zName)]

def heading (name : Value) (operation : String) : Options := [("name", name), ("operation", operation)]

/-- One curve over its axis, or two curves over the same one; other shapes are not drawn. -/
def plotCurve (name xs ys : Value) (c : Curve) (text : Value) : Outcome (List Frame) := do
  let d := describe (heading name "plot_xy" ++ c.properties ++ [("value", text)])
  let (shape, _) ← ys.cells
  match shape.length with
  | 1 => return [⟨d, some (← Numbers.ofValue (.list [xs, ys]))⟩, flush]
  | 2 => return [⟨d, some (← Numbers.ofValue (.list [.list [xs, xs], ys]))⟩, flush]
  | _ => return []

def plotSurface (name data : Value) (s : Surface) (text : Value) : Outcome (List Frame) := do
  let a ← Numbers.ofValue data
  return [⟨describe (heading name "plot_z" ++ s.properties ++ [("value", text)]), some a⟩, flush]

def appendPoint (name value startStep : Value) (c : Curve) : List Frame :=
  [⟨describe (heading name "append_y" ++ [("value", value), ("start_step", startStep)] ++ c.properties), none⟩, flush]

def appendPair (name x y label : Value) : List Frame :=
  [⟨describe (heading name "append_xy" ++ [("value", .tuple [x, y]), ("rank", 1), ("label", label)]), none⟩, flush]

def appendRow (name data : Value) (s : Surface) : Outcome (List Frame) := do
  return [⟨describe (heading name "append_z" ++ s.properties), some (← Numbers.ofValue data)⟩, flush]

def putLabel (name text : Value) : List Frame :=
  [⟨describe (heading name "label" ++ [("value", text)]), none⟩, flush]

def clearPlot (name : Value) : List Frame := [⟨describe (heading name "clear"), none⟩]

def hidePlot (name : Value) : List Frame := [⟨describe (heading name "close"), none⟩]

def removePlot (name : Value) : List Frame := [⟨describe (heading name "remove"), none⟩, flush]

structure Client where
  connected : Bool := true
  timeout : Int := 2000

namespace Client

def draw (frames : Outcome (List Frame)) : Act Client Value := do
  let frames ← frames
  if (← getThe Client).connected then frames.forM fun f => liftM (send f)
  return .nothing

def textParameters (names : List (String × Value)) : List Parameter := names.map fun p => .withDefault p.1 p.2

def curveParameters : List Parameter :=
  textParameters [("label", ""), ("xname", "X axis"), ("xscale", "arb. u."), ("yname", "Y axis"),
    ("yscale", "arb. u."), ("scatter", "False"), ("timeaxis", "False"), ("vline", "False")]

def surfaceParameters : List Parameter :=
  textParameters [("start_step", .nothing), ("xname", "X axis"), ("xscale", "arb. u."), ("yname", "Y axis"),
    ("yscale", "arb. u."), ("zname", "Y axis"), ("zscale", "arb. u.")]

def startStep : Value := .tuple [0, 1]

def axisStep (lo hi : Value) (n : Nat) : Outcome Value := do
  let width ← (← hi.minus lo).toReal
  if n = 0 then throw .divisionByZero
  return .tuple [lo, .float (width / Decimal.ofInt n)]

def asPair : Value → Outcome (Value × Value)
  | .ints [2] data => .ok (.ints [] (data.extract 0 1), .ints [] (data.extract 1 2))
  | v => do
    match ← v.items with
    | [a, b] => return (a, b)
    | _ => throw .wrongValue

def curveStart (extent step : Value) (length : Outcome Nat) : Outcome Value :=
  match extent, step with
  | .nothing, s => .ok s
  | e, .nothing => do
    let (lo, hi) ← asPair e
    axisStep lo hi (← length)
  | _, _ => .error .wrongValue

def surfaceStart (extent step : Value) (shape : List Nat) : Outcome Value :=
  match extent, step with
  | .nothing, s => .ok s
  | e, .nothing => do
    let (xs, ys) ← asPair e
    let (x0, x1) ← asPair xs
    let (y0, y1) ← asPair ys
    match shape with
    | [nx, ny] => return .tuple [← axisStep x0 x1 nx, ← axisStep y0 y1 ny]
    | _ => throw .wrongValue
  | _, _ => .error .wrongValue

def lengthOf : List Nat → Outcome Nat
  | n :: _ => .ok n
  | [] => .error .wrongType

def checkBytes : List Value → Outcome Unit
  | [] => .ok ()
  | .bool _ :: rest => checkBytes rest
  | .int n :: rest => if 0 ≤ n ∧ n < 256 then checkBytes rest else .error .wrongValue
  | _ => .error .wrongType

def handedOver (v : Value) : Outcome Numbers := do
  match v with
  | .floats shape data => return { shape, data }
  | .ints shape data => return .ofWhole shape data
  | .int n => throw (if n < 0 then .wrongValue else if n < twoTo 63 then .noMember else .overflow)
  | .bool _ | .bytes _ => throw .noMember
  | .list _ | .tuple _ | .dict _ =>
    checkBytes (← v.items)
    throw .noMember
  | _ => throw .wrongType

/-- A command that draws: the frames that its values make. -/
structure Drawing where
  name : String
  parameters : List Parameter
  frames : List Value → Outcome (List Frame)

def Drawing.command (d : Drawing) : Command Client :=
  { name := d.name, parameters := d.parameters, run := fun g => draw (d.frames g.values) }

def drawings : List Drawing := [
  { name := "plot_y"
    parameters := [.needed "name", .needed "arr", .withDefault "extent" .nothing,
      .withDefault "start_step" startStep, .withDefault "label" ""]
    frames := fun
      | [name, data, extent, step, label] => do
        let (shape, _) ← data.cells
        let s ← curveStart extent step (lengthOf shape)
        let a ← Numbers.ofValue data
        return [⟨describe (heading name "plot_y" ++ [("start_step", s), ("rank", 1), ("label", label)]), some a⟩, flush]
      | _ => throw .wrongType },
  { name := "plot_z"
    parameters := [.needed "name", .needed "arr", .withDefault "extent" .nothing] ++ surfaceParameters ++
      [.withDefault "text" ""]
    frames := fun
      | [name, data, extent, step, xn, xs, yn, ys, zn, zs, text] => do
        let (shape, _) ← data.cells
        plotSurface name data ⟨← surfaceStart extent step shape, xn, xs, yn, ys, zn, zs⟩ text
      | _ => throw .wrongType },
  { name := "plot_xy"
    parameters := [.needed "name", .needed "xs", .needed "ys"] ++ curveParameters ++ [.withDefault "text" ""]
    frames := fun
      | [name, xs, ys, l, xn, xc, yn, yc, sc, ta, vl, text] => plotCurve name xs ys ⟨l, xn, xc, yn, yc, sc, ta, vl⟩ text
      | _ => throw .wrongType },
  { name := "append_y"
    parameters := [.needed "name", .needed "point", .withDefault "start_step" startStep] ++ curveParameters
    frames := fun
      | [name, v, st, l, xn, xc, yn, yc, sc, ta, vl] => return appendPoint name v st ⟨l, xn, xc, yn, yc, sc, ta, vl⟩
      | _ => throw .wrongType },
  { name := "append_xy"
    parameters := [.needed "name", .needed "x", .needed "y", .withDefault "label" ""]
    frames := fun
      | [name, x, y, l] => return appendPair name x y l
      | _ => throw .wrongType },
  { name := "append_z"
    parameters := [.needed "name", .needed "arr"] ++ surfaceParameters
    frames := fun
      | [name, data, st, xn, xs, yn, ys, zn, zs] => appendRow name data ⟨st, xn, xs, yn, ys, zn, zs⟩
      | _ => throw .wrongType },
  { name := "label", parameters := [.needed "name", .needed "text"]
    frames := fun
      | [name, t] => return putLabel name t
      | _ => throw .wrongType },
  { name := "clear", parameters := [.withDefault "name" .nothing]
    frames := fun vs => return clearPlot (vs.headD .nothing) },
  { name := "hide", parameters := [.withDefault "name" .nothing]
    frames := fun vs => return hidePlot (vs.headD .nothing) },
  { name := "remove", parameters := [.withDefault "name" .nothing]
    frames := fun vs => return removePlot (vs.headD .nothing) }]

def commands : List (Command Client) := drawings.map (·.command) ++ [
  { name := "send_to_plotter", parameters := [.needed "meta", .withDefault "arr" .nothing]
    run := fun g => match g.values with
      | [d, data] => do
        if !(← getThe Client).connected then return .nothing
        let _ ← d.field "name"
        let numbers ← match data with
          | .nothing => pure none
          | v => do pure (some (← handedOver v))
        match d with
        | .dict es => draw (return [⟨es, numbers⟩])
        | _ => throw .wrongType
      | _ => throw .wrongType },
  .plain "disconnect_received" (do
    modifyThe Client fun c => { c with connected := false }
    return .nothing),
  .plain "close" (return .nothing)]

end Client

def client : Instrument where
  State := Client
  tellsMode := false
  start := do
    if (← get).openFault.isSome then throw .system
    return {}
  commands := Client.commands
  view c name :=
    match name with
    | "is_connected" => some c.connected
    | "timeout" => some (.int c.timeout)
    | _ => none

end EprBench.Plot
