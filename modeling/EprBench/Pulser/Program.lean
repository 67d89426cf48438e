import EprBench.Pulser.Word

/-! The program of the pulse board: rows with their protection, cut into parts where nothing happens for long and
turned into instructions. -/
namespace EprBench.Pulser

structure Sequence where
  config : Config
  mode : Mode
  windowed : Bool
  phased : Bool

namespace Sequence

def groups (s : Sequence) (rows : List Row) : Outcome (List (List Row)) :=
  grouped s.config s.windowed s.phased rows

def isDriven (s : Sequence) (g : List Row) : Outcome Bool := do
  match g with
  | [] => return false
  | r :: _ =>
    if r.channel == (← s.config.bit "MW") then return true
    return r.channel == (← s.config.bit "AWG")

def isPhaseGroup (s : Sequence) (g : List Row) : Outcome Bool := do
  match g with
  | [] => return false
  | r :: _ =>
    if r.channel == (← s.config.bit "-X") then return true
    return r.channel == (← s.config.bit "+Y")

def protectGroup (s : Sequence) (own : Outcome (List (List Row))) (g : List Row) : Outcome (Option (List Row)) := do
  let c := s.config
  if ← s.isDriven g then
    checkDriven c s.mode s.windowed g
    let (amp, lna) ← protections c s.mode s.windowed s.phased own g
    let amp ← mended c s.mode "AMP_ON" amp
    let lna ← mended c s.mode "LNA_PROTECT" lna
    return some (amp ++ lna)
  else if ← s.isPhaseGroup g then
    checkDistance s.mode phaseDistance g
    return none
  else
    checkDistance s.mode c.minLength g
    return none

/-- All rows that are played: the rows themselves and their protection. `given` is checked and
protected, `own` is played. -/
def prepared (s : Sequence) (given : List Row) (own : Outcome (List Row)) : Outcome (List Row) := do
  match s.config.autoDefense with
  | "False" =>
    let groups ← s.groups given
    groups.forM (checkDistance s.mode s.config.minLength)
    return given
  | "True" =>
    let groups ← s.groups given
    let ownGroups := own >>= s.groups
    let made ← groups.mapM (s.protectGroup ownGroups)
    let played := (← ownGroups).flatten
    return played ++ ((made.reverse.filterMap id).headD [])
  | _ => throw .wrongType

/-- A pause between starts that is longer than this is skipped. In a live session the limit counts ticks,
in a rehearsal nanoseconds. -/
def isPause (s : Sequence) (a b : Row) : Bool :=
  match s.mode with
  | .live => b.start - a.start > s.config.maxLength
  | .rehearsal => (b.start - a.start) * s.config.timebase > s.config.maxLength

def parts (s : Sequence) (rows : List Row) : List (List Row) :=
  (Row.sortByStart rows).splitBy fun a b => !s.isPause a b

def part (s : Sequence) (rows : List Row) : Outcome (List Instruction × Int) := do
  let (ws, lo) ← words rows
  return (← instructions s.config.timebase ws, lo)

def finish (is : List Instruction) : Outcome Int :=
  match is.getLast? with
  | some i => .ok (i.start + i.duration)
  | none => .error .outOfRange

/-- A part is moved behind the instructions before it. The times are those of a sequence shorter than 2 ^ 63 ns: in cells of
64 bits longer ones wrap round. -/
def append (timebase first lo resume : Int) : List Instruction → List Instruction
  | [] => []
  | i :: rest =>
    ⟨i.word, resume, lo * timebase + i.duration - resume - first * timebase⟩ ::
      rest.map fun i => { i with start := i.start + lo * timebase - first * timebase }

def chain (timebase first : Int) (before : List Instruction) : List (List Instruction × Int) → Outcome (List Instruction)
  | [] => .ok []
  | (is, lo) :: rest => do
    let resume ← finish before
    let moved := append timebase first lo resume is
    let tail ← chain timebase first moved rest
    return moved ++ tail

def assemble (s : Sequence) (rows : List Row) : Outcome (List Instruction) := do
  let made ← (s.parts rows).mapM s.part
  match made with
  | [] => throw .outOfRange
  | (is, lo) :: rest => return is ++ (← chain s.config.timebase lo is rest)

def tooLong : String := "Pulse sequence is longer than one period of the repetition rate"

/-- Adds the idle instruction that fills one period; nothing when there is no room for it. -/
def close (s : Sequence) (period : Int) (is : List Instruction) : Outcome (Option (List Instruction)) := do
  let t ← finish is
  if !fits period then throw .overflow
  if period - t > s.config.minLength + 4 then return some (is ++ [⟨0, t, period - t⟩])
  return none

def program (s : Sequence) (period : Int) (rows : List Row) : Outcome (Option (List Instruction)) := do
  if rows.isEmpty then throw .outOfRange
  s.close period (← s.assemble rows)

end Sequence
end EprBench.Pulser
