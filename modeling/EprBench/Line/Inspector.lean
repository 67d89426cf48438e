import EprBench.Command
import EprBench.Line.Link

/-! Settings files as a script may read them. -/
namespace EprBench.Line

def pathText : Value → Outcome String
  | .text p => .ok p
  | .bytes bs => decoded bs
  | _ => .error .wrongType

def settingsAt (path : Value) : Work Settings := do
  match path with
  | .text _ | .bytes _ => Bench.settingsFiles [← pathText path]
  | v => Bench.settingsFiles (← liftM (v.items >>= (·.mapM pathText)))

def entriesTable (es : Entries) : Value := .dict (es.map fun e => (.text e.1, .text e.2))

def keyOf (table wanted : Value) : Outcome Value := do
  match table with
  | .dict es =>
    match ← es.findM? fun e => e.2.equals wanted with
    | some e => return e.1
    | none => return .nothing
  | _ => throw .noMember

def inspector : Instrument where
  State := Unit
  tellsMode := false
  start := return ()
  commands := [
    .unary "read_conf_util" "path_config_file" fun path => do
      return (← parameters (← settingsAt path)).table,
    .unary "read_specific_parameters" "path_config_file" fun path => do
      return entriesTable (← specific (← settingsAt path)),
    .unary "read_modbus_parameters" "path_config_file" fun path => do
      let (mode, address) ← modbusParameters (← settingsAt path)
      return .list [mode, address],
    .fixed "search_keys_dictionary" ["dictionary", "search_value"] fun
      | [table, wanted] => keyOf table wanted
      | _ => throw .wrongType]

end EprBench.Line
