import EprBench.Command
import EprBench.Factory
import EprBench.Settings.Reference
import EprBench.Table.Writer

/-! Opening and saving tables from a script, by a path or by a dialog with the user. A rehearsal reads nothing and
opens no dialog. -/
namespace EprBench.Table

open Value

inductive Dialog where
  | filtered
  | titled
  deriving DecidableEq

structure Keeper where
  mode : Mode
  dialog : Dialog
  openDirectory : String
  scriptDirectory : String

inductive Purpose where
  | opening
  | saving

namespace Purpose

def name : Purpose → String
  | opening => "open"
  | saving => "save"

def title (p : Purpose) : String := "Select file to " ++ p.name

end Purpose

namespace Keeper

def pickFiltered (k : Keeper) (purpose : Purpose) (directory format : Value) : Work Value := do
  Bench.note (.dialog ["mode", purpose.name])
  if ← format.differs "" then
    let shown := format.display
    Bench.note (.dialog ["suffix", format])
    Bench.note (.dialog ["filters", .list [.text (shown ++ " (*." ++ shown ++ ")")]])
  let start := if ← directory.differs "" then directory.display else k.openDirectory
  Bench.note (.dialog ["dir", .text start])
  return .text ((← get).picked.getD "")

def pickTitled (k : Keeper) (purpose : Purpose) : Work Value := do
  Bench.note (.dialog [purpose.name, k.openDirectory, purpose.title])
  match (← get).picked with
  | some path => return .text path
  | none => return .tuple []

def pickFile (k : Keeper) (purpose : Purpose) (directory : Value) : Work Value :=
  match k.dialog with
  | .filtered => k.pickFiltered purpose directory "csv"
  | .titled => k.pickTitled purpose

def rehearsedHeader : Value := .list ["header1", "header2"]

def rehearsedRow : Value := .ints [0] #[]

def rehearsedGrid : Value := .list [.ints [0, 0] #[], .ints [0, 0] #[]]

def rehearsedPath : String := Bench.workingDirectory ++ "/test"

def programDirectory : String := "<atomize>"

def readTable (path : String) (lines : Value) (arrange : List (List Float) → Outcome Value) : Work Value := do
  let content ← Bench.readFile path
  let top := (header lines content).map fun line => Value.list (line.map .text)
  return .tuple [.list top, ← arrange (← rows content)]

def byRows (rows : List (List Float)) : Outcome Value := .ok (squeezed rows)

def inParts (parts : Value) (rows : List (List Float)) : Outcome Value := parted parts (squeezed rows)

def openNamed (rehearsed : Outcome Value) (path lines : Value) (arrange : List (List Float) → Outcome Value) :
    Act Keeper Value := do
  match (← getThe Keeper).mode with
  | .rehearsal => return .tuple [rehearsedHeader, ← rehearsed]
  | .live => readTable path.display lines arrange

def openPicked (rehearsed : Value) (directory lines : Value) (arrange : List (List Float) → Outcome Value) :
    Act Keeper Value := do
  let k ← getThe Keeper
  match k.mode with
  | .rehearsal => return .tuple [rehearsedHeader, rehearsed]
  | .live =>
    let path ← pathOf (← k.pickFile .opening directory)
    readTable path lines arrange

def tableOf (data : Value) : Outcome (Tensor Value) := do
  let (shape, cells) ← data.cells
  return ⟨shape, cells⟩

def saveMap (data directory header : Value) : Act Keeper Value := do
  let k ← getThe Keeper
  if k.mode == .live then
    let path ← k.pickFile .saving directory
    save path "#" header (tableOf data)
  return .nothing

def saveCurves (data directory header : Value) : Act Keeper Value := do
  let k ← getThe Keeper
  if k.mode == .live then
    let path ← k.pickFile .saving directory
    let table ← tableOf data
    save path (if k.dialog == .filtered then "#" else "# ") header (.ok table.transposed)
  return .nothing

def createPicked (directory : Value) : Act Keeper Value := do
  let k ← getThe Keeper
  match k.mode with
  | .rehearsal => return .text rehearsedPath
  | .live =>
    let path ← k.pickFile .saving directory
    let _ ← Bench.openFile (← pathOf path) ⟨.replace, false⟩
    return path

/-- A file that the user picks and the one for its parameters. Without a usable choice both go to the directory of
the program. -/
def createWithParameters (ending : Value) : Act Keeper Value := do
  match (← getThe Keeper).mode with
  | .rehearsal => return .tuple [.text rehearsedPath, .text (rehearsedPath ++ ".param")]
  | .live =>
    let path ← Act.rescue (fun f => f == .wrongType || f == .fileMissing) (createPicked "")
      fun _ => return .text (programDirectory ++ "/temp" ++ extension)
    match path with
    | .text s => return .tuple [path, .text (parameterPath s ending.display)]
    | _ => throw .noMember

def touch (path mode : Value) : Act Keeper Value := do
  let _ ← liftM (openWith path mode)
  return .nothing

def saveHeader (path header mode : Value) : Act Keeper Value := do
  match (← getThe Keeper).mode with
  | .rehearsal => touch path mode
  | .live =>
    write (← openWith path mode) Table.mark header ⟨[0], []⟩
    return .nothing

def saveMeasured (path data header mode : Value) : Act Keeper Value := do
  match (← getThe Keeper).mode with
  | .rehearsal => touch path mode
  | .live =>
    Table.saveData path data header mode
    return .nothing

def askFiltered (directory mode format : Value) : Act Keeper Value := do
  let k ← getThe Keeper
  k.pickFiltered (if ← mode.equals "Open" then .opening else .saving) directory format

def askTitled (mode : Value) : Act Keeper Value := do
  let k ← getThe Keeper
  if ← mode.equals "Open" then k.pickTitled .opening
  else if ← mode.equals "Save" then k.pickTitled .saving
  else throw .notAssigned

end Keeper

def named (xs : List String) (defaults : List (String × Value)) : List Parameter :=
  xs.map .needed ++ defaults.map fun d => .withDefault d.1 d.2

def placeParameters : Dialog → List (String × Value)
  | .filtered => [("directory", ""), ("fmt", "")]
  | .titled => [("directory", "")]

def ends : List Value → Option (Value × Value)
  | [] => none
  | v :: rest => some (v, (rest.getLast?).getD v)

open Keeper

def curveCommands (d : Dialog) : List (Command Keeper) := [
  { name := "open_1D"
    parameters := named ["path"] [("header", 0)]
    run := fun g => match g.values with
      | [path, lines] => openNamed (.ok rehearsedRow) path lines (.ok ∘ byColumns)
      | _ => throw .wrongType },
  { name := "open_1D_dialog"
    parameters := named [] (placeParameters d ++ [("header", 0)])
    run := fun g => match ends g.values with
      | some (directory, lines) => openPicked rehearsedRow directory lines (.ok ∘ byColumns)
      | none => throw .wrongType },
  { name := "save_1D_dialog"
    parameters := named ["data"] (placeParameters d ++ [("header", .text "")])
    run := fun g => match g.values with
      | data :: rest => match ends rest with
        | some (directory, header) => saveCurves data directory header
        | none => throw .wrongType
      | [] => throw .wrongType }]

def mapCommands (d : Dialog) : List (Command Keeper) := [
  { name := "open_2D"
    parameters := named ["path"] [("header", 0)]
    run := fun g => match g.values with
      | [path, lines] => openNamed (.error .notAssigned) path lines byRows
      | _ => throw .wrongType },
  { name := "open_2D_dialog"
    parameters := named [] (placeParameters d ++ [("header", 0)])
    run := fun g => match ends g.values with
      | some (directory, lines) => openPicked rehearsedGrid directory lines byRows
      | none => throw .wrongType },
  { name := "open_2D_appended"
    parameters := named ["path"] [("header", 0), ("chunk_size", 1)]
    run := fun g => match g.values with
      | [path, lines, parts] => openNamed (.ok rehearsedGrid) path lines (inParts parts)
      | _ => throw .wrongType },
  { name := "open_2D_appended_dialog"
    parameters := named [] [("directory", ""), ("header", 0), ("chunk_size", 1)]
    run := fun g => match g.values with
      | [directory, lines, parts] => openPicked rehearsedGrid directory lines (inParts parts)
      | _ => throw .wrongType },
  { name := "save_2D_dialog"
    parameters := named ["data"] [("directory", ""), ("header", "")]
    run := fun g => match g.values with
      | [data, directory, header] => saveMap data directory header
      | _ => throw .wrongType }]

def fileCommands : List (Command Keeper) := [
  { name := "create_file_dialog"
    parameters := named [] [("directory", "")]
    run := fun g => match g.values with
      | [directory] => createPicked directory
      | _ => throw .wrongType },
  { name := "create_file_parameters"
    parameters := named ["add_name"] [("directory", "")]
    run := fun g => match g.values with
      | [ending, _] => createWithParameters ending
      | _ => throw .wrongType },
  { name := "save_header"
    parameters := named ["filename"] [("header", ""), ("mode", "w")]
    run := fun g => match g.values with
      | [path, header, mode] => saveHeader path header mode
      | _ => throw .wrongType },
  { name := "save_data"
    parameters := named ["filename", "data"] [("header", ""), ("mode", "w")]
    run := fun g => match g.values with
      | [path, data, header, mode] => saveMeasured path data header mode
      | _ => throw .wrongType }]

def dialogCommand : Dialog → Command Keeper
  | .filtered =>
    { name := "FileDialog"
      parameters := named [] [("directory", ""), ("mode", "Open"), ("fmt", "")]
      run := fun g => match g.values with
        | [directory, mode, format] => askFiltered directory mode format
        | _ => throw .wrongType }
  | .titled =>
    { name := "file_dialog"
      parameters := named [] [("directory", ""), ("mode", "Open")]
      run := fun g => match g.values with
        | [_, mode] => askTitled mode
        | _ => throw .wrongType }

def viewOf (k : Keeper) (name : String) : Option Value :=
  match name with
  | "path_to_main" => some (.text programDirectory)
  | "open_dir" => some (.text k.openDirectory)
  | "script_dir" => some (.text k.scriptDirectory)
  | _ =>
    match k.mode, name with
    | .rehearsal, "test_header_array" => some rehearsedHeader
    | .rehearsal, "test_data" => some rehearsedRow
    | .rehearsal, "test_data_2d" => some rehearsedGrid
    | .rehearsal, "test_file_path" => some (.text rehearsedPath)
    | .rehearsal, "test_file_param_path" => some (.text (rehearsedPath ++ ".param"))
    | _, _ => none

def keeper (d : Dialog) : Instrument where
  State := Keeper
  start := do
    let settings ← Bench.adjusted Factory.program
    let openDirectory ← settings.get commonSection "open_dir"
    let scriptDirectory ← settings.get commonSection "script_dir"
    return { mode := (← get).mode, dialog := d, openDirectory, scriptDirectory }
  commands := curveCommands d ++ mapCommands d ++ fileCommands ++ [dialogCommand d]
  view := viewOf

end EprBench.Table
