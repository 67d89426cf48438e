import EprBench.Decimal.Layout

/-! Numbers set below one another, so that the points of all numbers stand in one column. -/
namespace EprBench.Decimal

def alignedPlaces : Nat := 8

/-- A number cut at its point: sign and digits before it, digits after it, and a power of ten. -/
structure Figure where
  whole : List Char
  fraction : List Char
  power : Int := 0

def signChars (negative : Bool) : List Char := if negative then ['-'] else []

def positionalFigure (negative : Bool) (digits places : Nat) : Figure :=
  let ds := paddedDigits (places + 1) digits
  let whole := ds.length - places
  { whole := signChars negative ++ ds.take whole, fraction := trimZeros (ds.drop whole) }

def positional (x : Float) : Figure :=
  match decode x with
  | .finite negative m e =>
    if m = 0 then positionalFigure negative 0 0
    else
      let d := shortest m e
      if d.exponent ≥ 0 then positionalFigure negative (d.digits * tenTo d.exponent.natAbs) 0
      else if d.exponent.natAbs ≤ alignedPlaces then positionalFigure negative d.digits d.exponent.natAbs
      else
        let v := magnitude m e
        positionalFigure negative (roundDiv (v.1 * tenTo alignedPlaces) v.2) alignedPlaces
  | _ => ⟨[], [], 0⟩

def scientificFigure (negative : Bool) (ds : List Char) (power : Int) : Figure :=
  { whole := signChars negative ++ ds.take 1, fraction := trimZeros (ds.drop 1), power }

def scientific (x : Float) : Figure :=
  match decode x with
  | .finite negative m e =>
    if m = 0 then scientificFigure negative ['0'] 0
    else
      let d := shortest m e
      let ds := Nat.toDigits 10 d.digits
      if (trimZeros ds).length ≤ alignedPlaces + 1 then
        scientificFigure negative ds (d.exponent + (ds.length : Int) - 1)
      else
        let r := significant alignedPlaces m e
        scientificFigure negative (Nat.toDigits 10 r.digits) (r.exponent + (alignedPlaces : Int))
  | _ => ⟨[], [], 0⟩

def widest (texts : List (List Char)) : Nat := texts.foldl (fun n t => max n t.length) 0

def padLeft (width : Nat) (cs : List Char) : List Char := List.replicate (width - cs.length) ' ' ++ cs

def padRight (width : Nat) (fill : Char) (cs : List Char) : List Char := cs ++ List.replicate (width - cs.length) fill

structure Columns where
  left : Nat
  right : Nat
  powerDigits : Option Nat

def needPowers (xs : List Float) : Bool :=
  match (xs.filter (· != 0)).map Float.abs with
  | [] => false
  | y :: ys =>
    let most := ys.foldl (fun a b => if a < b then b else a) y
    let least := ys.foldl (fun a b => if b < a then b else a) y
    most ≥ 1e8 || least < 0.0001 || most / least > 1000

def powerDigits (p : Int) : List Char := paddedDigits 2 p.natAbs

def finiteColumns (xs : List Float) : Columns :=
  if xs.isEmpty then ⟨0, 0, none⟩
  else if needPowers xs then
    let figures := xs.map scientific
    ⟨widest (figures.map (·.whole)), widest (figures.map (·.fraction)),
      some (widest (figures.map (powerDigits ·.power)))⟩
  else
    let figures := xs.map positional
    ⟨widest (figures.map (·.whole)), widest (figures.map (·.fraction)), none⟩

def Columns.tail (c : Columns) : Nat :=
  match c.powerDigits with
  | some n => n + 2 + c.right
  | none => c.right

def columns (xs : List Float) : Columns :=
  let c := finiteColumns (xs.filter isFinite)
  let words := (xs.filter (!isFinite ·)).map fun x => (floatText x).toList
  if words.isEmpty then c
  else { c with left := max c.left (max 3 (widest words) - (c.tail + 1)) }

def Columns.write (c : Columns) (x : Float) : List Char :=
  if !isFinite x then padLeft (c.left + c.tail + 1) (floatText x).toList
  else
    match c.powerDigits with
    | some n =>
      let f := scientific x
      padLeft c.left f.whole ++ '.' :: padRight c.right '0' f.fraction ++
        'e' :: (if f.power < 0 then '-' else '+') :: paddedDigits n f.power.natAbs
    | none =>
      let f := positional x
      padLeft c.left f.whole ++ '.' :: padRight c.right ' ' f.fraction

def alignedFloats (xs : List Float) : List (List Char) := xs.map (columns xs).write

def alignedInts (ns : List Int) : List (List Char) :=
  let words := ns.map fun n => (intText n).toList
  words.map (padLeft (widest words))

end EprBench.Decimal
