import EprBench.Bench.Event
import EprBench.Settings.Basic

/-! The bench: everything around an instrument that a session can touch. What the surroundings will answer is given
beforehand; what the session does is a list of events. -/
namespace EprBench

/-- A rehearsal checks the arguments of a script and sends nothing. -/
inductive Mode where
  | rehearsal
  | live
  deriving Repr, DecidableEq

def Mode.label : Mode → String
  | .rehearsal => "test"
  | .live => "None"

inductive Reply where
  | answer (v : Value)
  | failure (f : Fault)

structure Bench where
  mode : Mode := .live
  changes : Changes := []
  replies : List Reply := []
  openFault : Option Fault := none
  writeFaults : List (Nat × Fault) := []
  writes : Nat := 0
  files : List (String × String) := []
  loaded : List String := []
  /-- What library functions and card registers will answer, by name. -/
  prepared : List (String × List Value) := []
  instructions : Nat := 0
  samples : Array Int := #[]
  voltages : Array Float := #[]
  /-- Random numbers, over and over. -/
  draws : Array Float := #[0.5]
  drawn : Nat := 0
  picked : Option String := none
  log : Array Event := #[]
  printed : String := ""

/-- Work on the bench. What was done stays done when it fails. -/
abbrev Work := ExceptT Fault (StateM Bench)

/-- Work of an instrument with memory `σ`. What was changed stays changed when it fails. -/
abbrev Act (σ : Type) := ExceptT Fault (StateT σ (StateM Bench))

instance : MonadLift Outcome Work := ⟨fun x => ExceptT.mk (pure x)⟩
instance {σ : Type} : MonadLift Outcome (Act σ) := ⟨fun x => ExceptT.mk (pure x)⟩
instance (priority := low) {σ : Type} : MonadLift Work (Act σ) := ⟨fun x => ExceptT.mk (StateT.lift x.run)⟩

namespace Bench

def note (e : Event) : Work Unit := modify fun b => { b with log := b.log.push e }

def print (text : String) : Work Unit := modify fun b => { b with printed := b.printed ++ text ++ "\n" }

def isLive : Work Bool := return (← get).mode == .live

def message (text : String) : Work Unit := do
  if ← isLive then note (.message text)

def stop {α : Type} (text : String) : Work α := do
  message text
  throw .stopped

def sleep (seconds : Float) : Work Unit := note (.sleep seconds)

def opening (e : Event) : Work Unit := do
  note e
  match (← get).openFault with
  | some f => throw f
  | none => return

def writing (e : Event) : Work Unit := do
  note e
  modify fun b => { b with writes := b.writes + 1 }
  let b ← get
  match b.writeFaults.lookup b.writes with
  | some f => throw f
  | none => return

def nextReply : Work (Option Value) := do
  match (← get).replies with
  | [] => return none
  | r :: rest =>
    modify fun b => { b with replies := rest }
    match r with
    | .answer v => return some v
    | .failure f => throw f

def nextPrepared (name : String) : Work (Option Value) := do
  let b ← get
  match b.prepared.lookup name with
  | some (v :: rest) =>
    let left := b.prepared.map fun (e : String × List Value) => if e.1 == name then (name, rest) else e
    set { b with prepared := left }
    return some v
  | _ => return none

def useLibrary (file : String) (prepare : Work Unit) : Work Unit := do
  if !(← get).loaded.contains file then
    opening (.loadLibrary file)
    modify fun b => { b with loaded := file :: b.loaded }
    prepare

/-- Calls a library function. It answers what is prepared for it, or else `fallback`; a text is answered
as bytes. -/
def callLibrary (function : String) (args : List Value) (fallback : Work Value) : Work Value := do
  note (.call function args)
  match ← nextPrepared function with
  | some (.text s) => return .bytes s.toUTF8.toList
  | some v => return v
  | none => fallback

def random : Work Float := do
  let b ← get
  set { b with drawn := b.drawn + 1 }
  return b.draws.getD (b.drawn % b.draws.size) 0.5

end Bench

namespace Act

variable {σ α : Type}

def runFrom (x : Act σ α) (s : σ) : Work (α × σ) := ExceptT.mk do
  let (result, s) ← x.run.run s
  return result.map fun a => (a, s)

def rescue (kind : Fault → Bool) (x : Act σ α) (handler : Fault → Act σ α) : Act σ α :=
  tryCatch x fun f => if kind f then handler f else throw f

end Act

end EprBench
