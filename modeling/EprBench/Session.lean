import EprBench.Command

/-! A session: the requests of a script are carried out one after the other. A failed request does not end it. -/
namespace EprBench

structure Step where
  outcome : Outcome Value
  printed : String
  log : List Event

structure Report where
  start : Step
  steps : List Step

namespace Session

def closeStep (outcome : Outcome Value) (b : Bench) : Step × Bench :=
  (⟨outcome, b.printed, b.log.toList⟩, { b with printed := "", log := #[] })

def fileText (b : Bench) (name : String) : Outcome Value :=
  match b.files.lookup name with
  | some t => .ok (.text t)
  | none => .error .fileMissing

/-- Carries out one request. Two requests are answered by the session itself: reading a value
from the memory of the instrument and reading a file. -/
def answer (i : Instrument) (s : i.State) (r : Request) : Work (Outcome Value × i.State) := do
  match r.name, r.values with
  | "@get", [.text name] =>
    match i.view s name with
    | some v => return (.ok v, s)
    | none =>
      if name == "test_flag" && i.tellsMode then return (.ok (.text (← get).mode.label), s)
      else return (.error .noMember, s)
  | "@file", [.text name] => return (fileText (← get) name, s)
  | _, _ =>
    match i.commands.find? (·.name == r.name) with
    | none => return (.error .noMember, s)
    | some c => liftM ((c.call r).run.run s)

def steps (i : Instrument) (s : i.State) (b : Bench) : List Request → List Step
  | [] => []
  | r :: rest =>
    match (answer i s r).run.run b with
    | (.ok (outcome, s'), b') =>
      let (step, b'') := closeStep outcome b'
      step :: steps i s' b'' rest
    | (.error f, b') =>
      let (step, b'') := closeStep (.error f) b'
      step :: steps i s b'' rest

def run (i : Instrument) (b : Bench) (requests : List Request) : Report :=
  match i.start.run.run b with
  | (.error f, b') => ⟨(closeStep (.error f) b').1, []⟩
  | (.ok s, b') =>
    let (step, b'') := closeStep (.ok .nothing) b'
    ⟨step, steps i s b'' requests⟩

end Session
end EprBench
