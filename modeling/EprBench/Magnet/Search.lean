import EprBench.Magnet.Address

/-! Limits and steps of the field controller, and the search for a centre field on its grid. The sweep width is
divided into 4095 steps, and the centre field itself belongs to sweep address 2048. -/
namespace EprBench.Magnet

open Quantity

def centreAddress : Int := 2048

def maxAddress : Int := 4095

section

variable {α : Type} [Quantity α]

def minField : α := ofInt (-50)

def maxField : α := ofInt 23000

def maxWidth : α := ofInt 16000

def minStep : α := decimal 1 3

def centreGrid : α := decimal 5 2

def widthGrid : α := decimal 1 1

def resolution : α := decimal 5 3

def stepsPerGrid : Int := 50

def inField (x : α) : Bool := le minField x && le x maxField

def inSteps (x : α) : Outcome Int := nearest (x / minStep)

def gridRest (x : α) : Outcome Int := return (← inSteps x) % stepsPerGrid

def onWidthGrid (x : α) : Outcome α := return widthGrid * ofInt (← nearest (x / widthGrid))

def onCentreGrid (x : α) : Outcome α := return centreGrid * ofInt (← nearest (x / centreGrid))

def addressOk (a : α) : Bool := le zero a && le a (ofInt maxAddress)

def sweepLeaves (centre width : α) : Bool :=
  lt (centre - half * width) minField || lt maxField (centre + half * width)

/-- Walks along the sweep addresses, away from the middle of the range for `up`, until the centre field is
within `tolerance` smallest steps of its grid or the range ends. -/
def walk (step : α) (up : Bool) (tolerance : Int) : Nat → α × α → Outcome (α × α)
  | 0, place => .ok place
  | n + 1, (centre, address) => do
    let inside := if up then lt address (ofInt maxAddress) && lt minField (centre - half * step)
      else lt zero address && lt (centre + half * step) maxField
    if !inside then return (centre, address)
    if (← gridRest (abs centre)) ≤ tolerance then return (centre, address)
    walk step up tolerance n
      (if up then (centre - step, address + ofInt 1) else (centre + step, address - ofInt 1))

def addressCount : Nat := 4096

def maxAddedSteps : Nat := 100

def outOfRange : String := "Incorrect parameters. Probably field is out of range."

/-- Looks for a centre field on the grid with which a field can be set. A search that leads nowhere is
tried in the other direction, and then with a larger tolerance. It tells how many steps were added. -/
def bestFit (width step centre address : α) : Nat → Bool → Int → Outcome Nat
  | 0, _, _ => .error .endless
  | depth + 1, up, tolerance => do
    ensure (addressOk address && le minField (centre - half * step) && le (centre + half * step) maxField) outOfRange
    let edge : α := if up then ofInt maxAddress else zero
    if le address edge && le edge address then return maxAddedSteps
    let (c, a) ← walk step up tolerance addressCount (centre, address)
    let bad (c a : α) : Bool := le a zero || le (ofInt maxAddress) a || sweepLeaves c width
    if !bad c a then return 0
    let added ← bestFit width step centre address depth (!up) tolerance
    if bad centre address || added ≥ maxAddedSteps then
      let _ ← bestFit width step centre address depth up (tolerance + 1)
    return added

def searchDepth : Nat := 1000

def startsUp (centre : α) : Bool := le (half * (maxField - minField)) centre

/-- Divides a sweep by 1, 2, 3, … until it fits into the field range. -/
def narrow (fits : α → Bool) : Nat → Nat → α → α
  | 0, _, width => width
  | n + 1, i, width => if fits (half * width / ofInt i) then width else narrow fits n (i + 1) (width / ofInt i)

def maxDivisions : Nat := 100

/-- A sweep width with which a field at the distance `diff` from `centre` is reached by a sweep address,
and its step; nothing when there is none. -/
def guessWidth (centre diff : α) : Outcome (Option (α × α)) := do
  let reach (step : α) : Bool := !lt (step * ofInt (centreAddress - 1)) diff
  if lt (diff * ofInt maxAddress) widthGrid || lt (maxWidth / ofInt 2) diff then return none
  if lt (maxField - centre) diff || lt (centre - minField) diff then return none
  let width := ofInt maxAddress * diff
  let factor ← if lt maxWidth width then ceiling (width / maxWidth) else pure 1
  let width := if lt maxWidth width then width / ofInt factor else width
  let step := if factor == 1 then diff else diff / ofInt factor
  if !reach step then return none
  let width := narrow (fun w => !lt maxField (centre + w)) maxDivisions 1 width
  let width := narrow (fun w => !lt (centre - w) minField) maxDivisions 1 width
  let width ← onWidthGrid width
  let step := width / ofInt maxAddress
  return if reach step then some (width, step) else none

end
end EprBench.Magnet
