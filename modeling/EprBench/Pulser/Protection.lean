import EprBench.Pulser.Row

/-! Protection of amplifier and receiver. Edges that would come too close to each other are moved together, because
the board cannot play very short instructions. -/
namespace EprBench.Pulser

namespace Row

def justAfter (d : Int) : Bool := 0 < d && d ≤ overlap

def justBefore (d : Int) : Bool := -overlap ≤ d && d < 0

def shortPulse (r : Row) : Bool := r.length ≤ 30

def clearStart (pulse r : Row) : Row :=
  if justAfter (pulse.start - r.start) then { r with start := r.start - overlap }
  else if justBefore (pulse.start - r.start) then { r with start := pulse.start }
  else if justAfter (pulse.start - r.stop) then { r with stop := pulse.start }
  else if justBefore (pulse.start - r.stop) then
    { r with stop := if pulse.shortPulse then pulse.stop else r.stop + overlap }
  else r

def clearStop (pulse r : Row) : Row :=
  if justAfter (pulse.stop - r.stop) then { r with stop := pulse.stop }
  else if justBefore (pulse.stop - r.stop) then { r with stop := r.stop + overlap }
  else if justAfter (pulse.stop - r.start) then
    { r with start := if pulse.shortPulse then pulse.start else r.start - overlap }
  else if justBefore (pulse.stop - r.start) then { r with start := pulse.stop }
  else r

def clear (r pulse : Row) : Row := clearStop pulse (clearStart pulse r)

def clearPhase (r phase : Row) : Row :=
  let r :=
    if justAfter (phase.start - r.stop) then { r with stop := phase.start + overlap }
    else if justBefore (phase.start - r.stop) then { r with stop := r.stop + overlap }
    else r
  if justAfter (phase.start - r.start) then { r with start := r.start - overlap }
  else if justBefore (phase.start - r.start) then { r with start := phase.start }
  else r

def clearOf (pulses phases : List Row) (r : Row) : Row := phases.foldl clearPhase (pulses.foldl clear r)

end Row

def phaseRows (c : Config) (groups : List (List Row)) : Outcome (List Row) :=
  groups.foldlM (fun rows g =>
    match g with
    | [] => return rows
    | r :: _ => do
      if r.channel == (← c.bit "-X") then return rows ++ g
      else if r.channel == (← c.bit "+Y") then return rows ++ g
      else return rows) []

def phasesIn (c : Config) (phased : Bool) (groups : Outcome (List (List Row))) : Outcome (List Row) :=
  if phased then groups >>= phaseRows c else .ok []

def groupOf (bit : Int) (groups : List (List Row)) : Option Nat :=
  (groups.zipIdx.reverse.find? fun g => g.1.head?.any (·.channel == bit)).map (·.2)

def windowBit (c : Config) (mw : Int) (groups : List (List Row)) : Outcome Int :=
  if groups.all fun g => g.head?.any (·.channel == mw) then .ok 0 else c.bit "AWG"

/-- Rows in groups by channel. Windows of generator pulses join the group of the microwave pulses,
with their edges kept clear of the microwave pulses and of the phase pulses; `phased` says whether
there can be phase pulses. -/
def grouped (c : Config) (windowed phased : Bool) (rows : List Row) : Outcome (List (List Row)) := do
  if rows.isEmpty then throw .outOfRange
  let groups := Row.groups rows
  if !windowed then return groups
  let mw ← c.bit "MW"
  let awg ← windowBit c mw groups
  match groupOf mw groups, groupOf awg groups with
  | some i, some j =>
    let phases ← phasesIn c phased (.ok groups)
    let pulses := groups.getD i []
    let windows := (groups.getD j []).map (Row.clearOf pulses phases)
    return (groups.set i (pulses ++ windows)).eraseIdx j
  | _, _ => return groups

def checkDistance (mode : Mode) (distance : Int) (rows : List Row) : Outcome Unit :=
  let sorted := Row.sortByStart rows
  let close := (sorted.zip sorted.tail).any fun (a, b) => b.start - a.stop < distance
  ensure (mode == .live || !close)
    s!"Overlapping pulses or two pulses with less than {Decimal.intText (distance * 2)} ns distance"

def unwindowed (c : Config) (r : Row) : Row :=
  { r with start := r.start + c.windowLeadTicks, stop := r.stop - c.windowTailTicks }

def checkDriven (c : Config) (mode : Mode) (windowed : Bool) (rows : List Row) : Outcome Unit := do
  if !windowed then checkDistance mode c.minLength rows
  else
    let awg ← c.bit "AWG"
    let pulses := rows.filter (·.channel != awg)
    let windows := rows.filter (·.channel == awg)
    checkDistance mode c.minLength pulses
    checkDistance mode c.minLength windows
    checkDistance mode c.minLength
      (if windows.isEmpty then [] else pulses ++ windows.map (unwindowed c))

def checkAmplifier (c : Config) (mode : Mode) (r : Row) : Outcome Unit :=
  ensure (mode == .live || 2 * r.length ≤ c.maxLength) "Maximum available length (1900 ns) for AMP_ON pulse is reached"

def shieldRows (c : Config) (ofPulse ofWindow : Row → Outcome Row) (rows : List Row) : Outcome (List Row) := do
  let made ← rows.mapM fun r => do
    if r.channel == (← c.bit "MW") then return [← ofPulse r]
    else if r.channel == (← c.bit "AWG") then return [← ofWindow r]
    else return []
  return made.flatten

def amplifierRow (c : Config) (mode : Mode) (start stop : Int) : Outcome Row := do
  checkAmplifier c mode ⟨0, start, stop⟩
  return ⟨← c.bit "AMP_ON", start, stop⟩

def amplifierRows (c : Config) (mode : Mode) (rows : List Row) : Outcome (List Row) :=
  shieldRows c (fun r => amplifierRow c mode (r.start - c.switchDelay) (r.stop + c.ampDelay))
    (fun r => amplifierRow c mode r.start r.stop) rows

def receiverRow (c : Config) (start stop : Int) : Outcome Row := return ⟨← c.bit "LNA_PROTECT", start, stop⟩

def receiverRows (c : Config) (rows : List Row) : Outcome (List Row) :=
  shieldRows c (fun r => receiverRow c (r.start - c.switchDelay) (r.stop + c.protectDelay))
    (fun r => receiverRow c r.start (r.stop - c.windowTailTicks + c.protectWindowDelay)) rows

def cleared (c : Config) (phased : Bool) (own : Outcome (List (List Row))) (rows protections : List Row) :
    Outcome (List Row) := do
  let phases ← phasesIn c phased own
  return protections.map (Row.clearOf rows phases)

def moveAt (move : Row → Row → Row) (i : Nat) (rows : List Row) (j : Nat) : List Row :=
  match rows[i]?, rows[j]? with
  | some r, some p => rows.set i (move p r)
  | _, _ => rows

/-- Clears the row at `i`, if it is a window, of the starts of all rows and of the end of the last one. -/
def clearWindow (awg : Int) (rows : List Row) (i : Nat) : List Row :=
  if rows[i]?.any (·.channel == awg) then
    moveAt Row.clearStop i ((List.range rows.length).foldl (moveAt Row.clearStart i) rows) (rows.length - 1)
  else rows

/-- In a rehearsal the windows are cleared once more, among themselves, before the receiver pulses are
made from them. -/
def rehearsedWindows (c : Config) (rows : List Row) : Outcome (List Row) := do
  let awg ← c.bit "AWG"
  return (List.range rows.length).foldl (clearWindow awg) rows

def receiverBase (c : Config) (mode : Mode) (windowed : Bool) (rows : List Row) : Outcome (List Row) :=
  if mode == .rehearsal && windowed then rehearsedWindows c rows else .ok rows

def protections (c : Config) (mode : Mode) (windowed phased : Bool) (own : Outcome (List (List Row)))
    (rows : List Row) : Outcome (List Row × List Row) := do
  let amp ← amplifierRows c mode rows
  let amp ← cleared c phased own rows amp
  let rows ← receiverBase c mode windowed rows
  let lna ← receiverRows c rows
  let lna ← cleared c phased own rows lna
  return (amp, lna)

def separate (rows : List Row) : List Row × List Row :=
  let close := (rows.zip rows.tail).map fun (a, b) => decide (b.start - a.stop < protectionDistance)
  let marks := (List.range rows.length).map fun i =>
    close.getD i false || (i > 0 && close.getD (i - 1) false)
  let marked := rows.zip marks
  (Row.distinct ((marked.filter fun m => !m.2).map (·.1)),
    Row.distinct ((marked.filter fun m => m.2).map (·.1)))

end EprBench.Pulser
