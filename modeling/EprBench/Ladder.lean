import EprBench.Value.Convert

/-! Whole multiples of a step, and ladders of values in steps of a decade or two, written with a number and a unit. A
thousand of one unit are one of the next. -/
namespace EprBench

/-- The least multiple of `step` from `n` on. -/
def roundUp (n step : Int) : Int := step * (n.fdiv step + if n.fmod step > 0 then 1 else 0)

/-- The first of the values that are nearest to `x`. -/
def nearestOf (x : Int) : List Int → Int
  | [] => x
  | v :: rest => rest.foldl (fun best w => if (w - x).natAbs < (best - x).natAbs then w else best) v

abbrev Rung := Int × String

structure Ladder where
  steps : List Int
  units : List (String × String)
  table : List (Rung × Int)

namespace Ladder

def carry (l : Ladder) (n : Int) (unit : String) : Rung :=
  match l.units.lookup unit with
  | some larger => if n == 1000 then (1, larger) else (n, unit)
  | none => (n, unit)

def step (l : Ladder) (n : Int) : Int := nearestOf n l.steps

def code? (l : Ladder) (r : Rung) : Option Int := (l.table.find? (·.1 == r)).map (·.2)

def rungText (r : Rung) : String := Decimal.intText r.1 ++ " " ++ r.2

def nameOfCode (l : Ladder) (code : Int) : Value :=
  match l.table.find? (·.2 == code) with
  | some e => .text (rungText e.1)
  | none => .nothing

def numbered (rungs : List Rung) (first by_ : Int) : List (Rung × Int) :=
  rungs.mapIdx fun i r => (r, first + by_ * i)

def rungs (steps : List Int) (units : List String) : List Rung :=
  units.flatMap fun u => steps.dropLast.map fun n => (n, u)

end Ladder
end EprBench
