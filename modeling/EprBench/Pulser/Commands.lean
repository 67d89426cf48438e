import EprBench.Pulser.Device

/-! The commands of the pulse programmer, one of them for each step between a list of pulses and a program of the
board. -/
namespace EprBench.Pulser

open Value

/-! ### Arrays from a script -/

def rowsOfTable : Value → Outcome (List Row)
  | .ints [_, width] data => if width < 3 then .error .outOfRange else .ok (split width data.size data.toList)
  | .floats [_, width] _ => .error (if width < 3 then .outOfRange else .wrongType)
  | .ints .. | .floats .. => .error .outOfRange
  | _ => .error .wrongType
where
  split (width : Nat) : Nat → List Int → List Row
    | fuel + 1, a :: b :: c :: rest => ⟨a, b, c⟩ :: split width fuel (rest.drop (width - 3))
    | _, _ => []

def tableOfLists (v : Value) : Outcome Value := do return (← v.numbers).value

def rowsOfLists (v : Value) : Outcome (List Row) := do
  match v with
  | .list [] | .tuple [] => return []
  | v => rowsOfTable (← tableOfLists v)

def wholeTable (v : Value) : Outcome Value := do
  let (shape, cells) ← v.cells
  let cells ← cells.mapM toInt
  if !cells.all fitsCell then throw .overflow
  return .ints shape cells.toArray

def sortedTable (v : Value) : Outcome Value := do
  let rows ← v.items
  let starts ← rows.mapM fun r => do
    if v.isArray && !r.isArray then throw .outOfRange
    (← r.nth 1).toInt
  let sorted := (starts.zip rows).mergeSort fun a b => a.1 ≤ b.1
  wholeTable (.list (sorted.map (·.2)))

def checkedTable (mode : Mode) (distance : Int) (v : Value) : Outcome Value := do
  let sorted ← sortedTable v
  if mode == .rehearsal && (← sorted.size) > 1 then checkDistance mode distance (← rowsOfTable sorted)
  return sorted

def rowLe : List Number → List Number → Bool
  | a :: as, b :: bs =>
    match a.compare b with
    | some .lt => true
    | some .eq => rowLe as bs
    | _ => false
  | _, _ => true

def distinctTable (v : Value) : Outcome Value := do
  let given ← v.numbers
  let made {α : Type} (t : Tensor α) (number : α → Number) (array : List Nat → Array α → Value) : Outcome Value :=
    match t.shape with
    | [] => .error .wrongValue
    | _ :: rest =>
      let width := Tensor.volume rest
      let rows := (List.range (t.cells.length / max 1 width)).map fun i => (t.cells.drop (i * width)).take width
      let sorted := (rows.mergeSort fun a b => rowLe (a.map number) (b.map number)).eraseRepsBy fun a b =>
        rowLe (a.map number) (b.map number) && rowLe (b.map number) (a.map number)
      .ok (array (sorted.length :: rest) sorted.flatten.toArray)
  match given with
  | .whole t => made t .int .ints
  | .real t => made t .float .floats

def groupedTable (v : Value) : Outcome (List Value) := do
  match v with
  | .ints [_, width] _ | .floats [_, width] _ =>
    if width = 0 then throw .outOfRange
    let rows ← (← v.items).mapM fun r => do return ((← r.nth 0), r)
    (rows.splitBy fun a b => a.1.same b.1).mapM fun g => tableOfLists (.list (g.map (·.2)))
  | .ints .. | .floats .. => throw .outOfRange
  | _ => throw .wrongType

structure Words where
  cells : List Int
  word : Int → Value

def Words.ofValue (v : Value) : Outcome Words := do
  match ← v.cells with
  | ([_], _) =>
    match ← v.numbers with
    | .whole t => return ⟨t.cells, .int⟩
    | .real t =>
      let cells ← t.cells.mapM truncated
      if t.cells == cells.map Decimal.ofInt then return ⟨cells, fun n => .float (Decimal.ofInt n)⟩
      throw .wrongType
  | _ => throw .wrongValue

def Words.array (w : Words) : Value :=
  (Numbers.ofCells [w.cells.length] (w.cells.filterMap fun n => (w.word n).number?)).value

def arrayOf (xs : List Int) : Value := .intRow xs.toArray

def tableOrZero (rows : List Row) : Value := if rows.isEmpty then .ints [1, 1] #[0] else Row.table rows

def Instruction.cells (i : Instruction) (word : Int → Value) : Value :=
  .list [word i.word, .int i.start, .int i.duration]

def Row.cells (r : Row) (word : Int → Value) : Value := .list [word r.channel, .int r.start, .int r.stop]

def channelBit : Value → Outcome Value
  | .float x => .ok (.float (Float.exp2 x))
  | .floats shape data => .ok (.floats shape (data.map Float.exp2))
  | .ints shape data => .ok (.ints shape (data.map fun n => twoTo n.toNat))
  | v => do return .int (twoTo (← v.toInt).toNat)

/-- A number in a cell of 64 bits. -/
def inCell : Value → Value
  | .int n => .int (wrapped n)
  | v => v

def Instruction.wrapped (i : Instruction) : Instruction := ⟨i.word, Value.wrapped i.start, Value.wrapped i.duration⟩

def leftAfter (period : Value) (i : Instruction) : Outcome Value := do
  let period ← match period with
    | .list _ | .tuple _ => tableOfLists period
    | v => pure v
  period.checkFit
  return inCell (← (← period.minus (.int i.duration)).minus (.int i.start))

/-- The instructions of a program as rows of numbers, with the idle instruction at the end; nothing when there is no
room for it. The times stand in cells of 64 bits and wrap round in them. -/
def Sequence.programCells (s : Sequence) (period : Value) (rows : List Row) : Outcome (Option (List Value)) := do
  if rows.isEmpty then throw .outOfRange
  let is := (← s.assemble rows).map Instruction.wrapped
  match is.getLast? with
  | none => throw .outOfRange
  | some i =>
    let left ← leftAfter period i
    if ← left.gt (.int (s.config.minLength + 4)) then
      return some (is.map (·.cells .int) ++ [.list [0, inCell (.int (i.start + i.duration)), left]])
    return none

namespace Device

def silent (x : Act Device Unit) : Act Device Value := do
  x
  return .nothing

def whenDefended (p : Device) (x : Outcome Value) : Outcome Value :=
  if p.config.autoDefense == "True" then x else .ok .nothing

def ownGroups : Act Device (Outcome (List (List Row))) := do
  let p ← get
  if p.phaseLengths.isEmpty || p.config.autoDefense != "True" then return .ok []
  let (rows, windowed) := rowsOf p.config p.mode p.windowed p.properties
  modify fun p => { p with windowed := windowed }
  let p ← get
  return rows >>= p.sequence.groups

def stepOf (name parameter : String) (run : Device → Value → Outcome Value) : Command Device :=
  .unary name parameter fun v => do
    let p ← get
    run p v

def declaration : List Value → Act Device Value
  | [name, channel, start, length, deltaStart, increment, phases] =>
    silent (addPulse ⟨name, channel, start, length, deltaStart, increment, phases⟩)
  | _ => throw .wrongType

def redefinitionOf (t : Timing) : List Value → Act Device Value
  | [name, value] => silent (redefine t name value)
  | _ => throw .wrongType

def repetitionRate : List Value → Act Device Value
  | [] => return (← get).rate
  | [r] => silent (modify fun p => { p with rate := r, rated := true })
  | _ => return .nothing

def declaring : List (Command Device) := [
  .plain "pulser_name" (return .text "PB ESR 500 Pro"),
  { name := "pulser_pulse"
    parameters := [.withDefault "name" (.text "P0"), .withDefault "channel" (.text "TRIGGER"),
      .withDefault "start" (.text "0 ns"), .withDefault "length" (.text "100 ns"),
      .withDefault "delta_start" (.text "0 ns"), .withDefault "length_increment" (.text "0 ns"),
      .withDefault "phase_list" (.list [])]
    run := fun g => declaration g.values },
  redefinition .start,
  redefinition .deltaStart,
  redefinition .lengthIncrement,
  .variadic "pulser_repetition_rate" repetitionRate,
  .plain "pulser_clear" (silent (modify cleared)),
  .unary "pulser_test_flag" "flag" fun v =>
    silent (modify fun p => { p with mode := if v.isText "test" then .rehearsal else .live, flag := some v }),
  .plain "pulser_pulse_list"
    (return .text (String.join ((← get).declared.map fun q => q.table.display ++ "\n")))]
where
  redefinition (t : Timing) : Command Device :=
    { name := "pulser_redefine_" ++ t.property
      byName := [.needed "name", .needed t.property]
      run := fun g => redefinitionOf t g.values }

def playing : List (Command Device) := [
  .plain "pulser_update" (silent update),
  .plain "pulser_next_phase" (silent nextPhase),
  .variadic "pulser_shift" fun names => silent (movePulses .shift (fun p => { p with shifted := true }) names),
  .variadic "pulser_increment" fun names => do
    let p ← get
    silent (movePulses (.increment p.config) (fun p => { p with incremented := true }) names),
  .plain "pulser_phase_reset" (silent (modify fun p => { p with phaseIndex := 0 })),
  { name := "pulser_reset"
    parameters := [.withDefault "interal_cycle" (.text "False")]
    run := fun g => silent (reset (g.values.headD .nothing)) },
  { name := "pulser_pulse_reset"
    takesMore := true
    byName := [.withDefault "interal_cycle" (.text "False")]
    run := fun g => silent (restore g.more (g.values.headD .nothing)) },
  .plain "pulser_stop" do
    let p ← get
    if p.mode == .live then Board.idle p.config.clock
    return .nothing,
  .plain "pulser_state" do
    if (← get).mode == .rehearsal then return .nothing
    let _ ← Board.begin
    Board.status,
  .plain "pulser_visualize" (silent visualize),
  { name := "pulser_acquisition_cycle"
    parameters := [.needed "data1", .needed "data2", .withDefault "acq_cycle" (.list [])]
    run := fun g => do
      match (← get).mode, g.values with
      | .live, [a, b, cycle] => Cycle.averageOf a b cycle
      | .rehearsal, [a, b, cycle] => Cycle.rehearse a b cycle
      | _, _ => throw .wrongType },
  { name := "pulser_instruction_from_file"
    parameters := [.needed "flag", .withDefault "filename" (.text recordFile)]
    run := fun g => match g.values with
      | [flag, file] => silent (useFile flag file)
      | _ => throw .wrongType }]

def rowSteps : List (Command Device) := [
  stepOf "splitting_acc_to_channel" "np_array" fun p v => do
    if p.windowed then return .list ((← p.sequence.groups (← rowsOfTable v)).map Row.table)
    else return .list (← groupedTable v),
  stepOf "check_problem_pulses" "np_array" fun p v => checkedTable p.mode p.config.minLength v,
  stepOf "check_problem_pulses_phase" "np_array" fun p v => do
    let sorted ← checkedTable p.mode phaseDistance v
    return if p.mode == .live then sorted else v,
  stepOf "delete_duplicates" "np_array" fun _ v => distinctTable v,
  stepOf "convert_to_bit_pulse" "np_array" fun _ v => do
    let (ws, first) ← words (← rowsOfTable v)
    return .tuple [arrayOf ws, .int first],
  stepOf "convert_to_bit_pulse_visualizer_final_instructions" "np_array" fun p v => do
    return .list ((← instructionPicture p.mode (← rowsOfTable v)).map arrayOf),
  .unary "add_amp_on_pulses" "p_list" fun v => do
    let own ← ownGroups
    let p ← get
    p.whenDefended do
      let rows ← rowsOfLists v
      let amp ← amplifierRows p.config p.mode rows
      return Row.table (← EprBench.Pulser.cleared p.config (!p.phaseLengths.isEmpty) own rows amp),
  .unary "add_lna_protect_pulses" "p_list" fun v => do
    let own ← ownGroups
    let p ← get
    if p.mode == .live && p.config.autoDefense != "True" then throw .notAssigned
    p.whenDefended do
      let rows ← rowsOfLists v
      let lna ← receiverRows p.config rows
      return Row.table (← EprBench.Pulser.cleared p.config (!p.phaseLengths.isEmpty) own rows lna),
  stepOf "check_problem_pulses_amp_lna" "p_list" fun p v => p.whenDefended do
    if !v.isArray then throw .noMember
    let (apart, close) := separate (← rowsOfTable v)
    return .tuple [tableOrZero apart, tableOrZero close],
  .fixed "convert_to_bit_pulse_amp_lna" ["p_list", "channel"] fun
    | [v, channel] => do
      let p ← get
      p.whenDefended do
        let bits ← protectionBits p.config p.mode channel (← rowsOfTable v)
        (← channelBit channel).times (arrayOf bits)
    | _ => throw .wrongType]

def instructionList (p : Device) (v : Value) : Outcome Value := do
  let row ← Words.ofValue v
  return .list ((← instructions p.config.timebase row.cells).map (·.cells row.word))

def activeList (p : Device) (v : Value) : Outcome Value := p.whenDefended do
  let row ← Words.ofValue v
  return .list ((← activeRows row.cells).map (·.cells row.word))

def closedBits (p : Device) (v channel : Value) : Outcome Value := do
  if !v.isArray then
    if ← protects p.config channel then return v else return .nothing
  let row ← Words.ofValue v
  match ← closeGaps p.config p.mode channel row.cells with
  | some bits => return { row with cells := bits }.array
  | none => return .nothing

def joinedBits (p : Device) (v : Value) : Outcome Value := do
  if !v.isArray then
    let _ ← v.size
    throw .outOfRange
  let row ← Words.ofValue v
  return { row with cells := ← joined p.config row.cells }.array

def wordSteps : List (Command Device) := [
  stepOf "instruction_pulse" "np_array" instructionList,
  stepOf "instruction_pulse_short_lna_amp" "np_array" activeList,
  .fixed "check_short_pulses" ["np_array", "channel"] fun
    | [v, channel] => do (← get).closedBits v channel
    | _ => throw .wrongType,
  stepOf "joining_pulses" "np_array" joinedBits]

def pulseSteps : List (Command Device) := [
  .unary "convertion_to_numpy" "p_array" fun v => do
    return Row.table (← convertPulses (← Properties.ofTables v)),
  .unary "extending_rect_awg" "np_array" fun v => do
    let rows ← convertPulses (← Properties.ofTables v)
    return Row.table (← (← get).sequence.groups rows).flatten,
  .unary "preparing_to_bit_pulse" "np_array" fun v => do
    return Row.table (← prepare (← Properties.ofTables v)),
  .unary "convert_to_bit_pulse_visualizer" "np_array" fun v => do
    let rows ← prepare (← Properties.ofTables v)
    return .list ((← picture (← get).mode rows).map arrayOf),
  .fixed "split_into_parts" ["np_array", "rep_time"] fun
    | [v, time] => do
      let rows ← prepare (← Properties.ofTables v)
      let p ← get
      match ← p.sequence.programCells time rows with
      | some cells => return .list cells
      | none => refuseLong
    | _ => throw .wrongType,
  .fixed "change_pulse_settings" ["parameter", "delay"] fun
    | [time, delay] => do
      let p ← get
      return .text (← moved p.mode time delay)
    | _ => throw .wrongType]

def flagValue (b : Bool) : Value := .int (if b then 1 else 0)

def view (p : Device) : String → Option Value
  | "pulse_array" => some (.list (p.pulses.map Pulse.table))
  | "pulse_array_init" => some (.list (p.declared.map Pulse.table))
  | "pulse_name_array" => some (.list p.names)
  | "phase_array_length" => some (.list (p.phaseLengths.map fun (n : Nat) => .int n))
  | "reset_count" => some (flagValue p.settled)
  | "shift_count" => some (flagValue p.shifted)
  | "increment_count" => some (flagValue p.incremented)
  | "rep_rate_count" => some (flagValue p.rated)
  | "rep_rate" => some (.tuple [p.rate])
  | "phase_pulses" => some (.int p.phasePulses)
  | "current_phase_index" => some (.int p.phaseIndex)
  | "awg_pulses" => some (flagValue p.windowed)
  | "instr_from_file" => some (flagValue p.fromFile)
  | "iterator_of_updates" => p.updates.map fun n => .int n
  | "channel_dict" => some (.dict (p.config.channels.map fun (name, n) => (.text name, .int n)))
  | "clock" => some (.float p.config.clock)
  | "timebase" => some (.int p.config.timebase)
  | "repetition_rate" => some (.text p.config.repetitionRate)
  | "auto_defense" => some (.text p.config.autoDefense)
  | "max_pulse_length" => some (.int p.config.maxLength)
  | "min_pulse_length" => some (.int p.config.minLength)
  | "minimal_distance" => some (.int p.config.minimalDistance)
  | "constant_shift" => some (.int p.config.constantShift)
  | "switch_delay" => some (.int p.config.switchDelay)
  | "amp_delay" => some (.int p.config.ampDelay)
  | "protect_delay" => some (.int p.config.protectDelay)
  | "test_flag" => p.flag
  | _ => none

end Device

def programmer : Instrument where
  State := Device
  start := do
    let settings ← Bench.adjusted Factory.pulseBlaster
    let config ← Config.ofEntries (← Line.specific settings)
    let mode := (← get).mode
    if mode == .rehearsal then Bench.putFile Device.recordFile ""
    return Device.make config mode
  commands := Device.declaring ++ Device.playing ++ Device.rowSteps ++ Device.wordSteps ++ Device.pulseSteps
  view := Device.view

end EprBench.Pulser
