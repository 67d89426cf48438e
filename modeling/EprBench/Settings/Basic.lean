import EprBench.Fault
import EprBench.Text.Case
import EprBench.Text.Pieces

/-! Settings of an instrument: named sections of keys and values, over a common set of defaults. -/
namespace EprBench

abbrev Entries := List (String × String)

namespace Entries

def put (es : Entries) (key value : String) : Entries :=
  if es.any (·.1 == key) then es.map fun e => if e.1 == key then (key, value) else e
  else es ++ [(key, value)]

def drop (es : Entries) (key : String) : Entries := es.filter (·.1 != key)

end Entries

structure Settings where
  defaults : Entries := []
  sections : List (String × Entries) := []

def commonSection : String := "DEFAULT"

/-- Changes made to settings after they are read: a section is changed key by key, or removed; a key
is given a value, or removed. -/
abbrev Changes := List (String × Option (List (String × Option String)))

namespace Settings

def section? (s : Settings) (name : String) : Option Entries :=
  s.sections.lookup name

def updateSection (s : Settings) (name : String) (f : Entries → Entries) : Settings :=
  if name == commonSection then { s with defaults := f s.defaults }
  else if s.sections.any (·.1 == name) then
    { s with sections := s.sections.map fun e => if e.1 == name then (name, f e.2) else e }
  else { s with sections := s.sections ++ [(name, f [])] }

def removeSection (s : Settings) (name : String) : Settings :=
  { s with sections := s.sections.filter (·.1 != name) }

def changeKey (es : Entries) : String × Option String → Entries
  | (key, some value) => es.put (Text.lower key) value
  | (key, none) => es.drop (Text.lower key)

def change (s : Settings) (changes : Changes) : Settings :=
  changes.foldl (fun s c =>
    match c.2 with
    | some keys => s.updateSection c.1 (fun es => keys.foldl changeKey es)
    | none => s.removeSection c.1) s

def visible (s : Settings) (es : Entries) : Entries := es.foldl (fun m e => m.put e.1 e.2) s.defaults

end Settings
end EprBench
