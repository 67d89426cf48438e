import EprBench.Bench

/-! Commands of an instrument and how the arguments of a request are matched with them. -/
namespace EprBench

structure Request where
  name : String
  values : List Value := []
  named : Options := []

structure Parameter where
  name : String
  fallback : Option Value := none

structure Given where
  values : List Value
  more : List Value := []
  named : Options := []

structure Command (σ : Type) where
  name : String
  parameters : List Parameter := []
  takesMore : Bool := false
  byName : List Parameter := []
  takesAnyName : Bool := false
  run : Given → Act σ Value

namespace Parameter

def needed (name : String) : Parameter := ⟨name, none⟩

def withDefault (name : String) (v : Value) : Parameter := ⟨name, some v⟩

def resolve (named : Options) (p : Parameter) : Outcome Value :=
  match named.lookup p.name with
  | some v => .ok v
  | none =>
    match p.fallback with
    | some v => .ok v
    | none => .error .wrongType

end Parameter

namespace Command

variable {σ : Type}

/-- Matches the arguments of a request with the parameters of a command. A value given twice, one that
is missing, and one too many are mistakes of type. -/
def matched (c : Command σ) (values : List Value) (named : Options) : Outcome Given := do
  let n := c.parameters.length
  let known := c.parameters ++ c.byName
  if values.length > n && !c.takesMore then throw .wrongType
  if named.any fun o => (c.parameters.take values.length).any (·.name == o.1) then throw .wrongType
  let extra := named.filter fun o => !known.any (·.name == o.1)
  if !extra.isEmpty && !c.takesAnyName then throw .wrongType
  let later ← (c.parameters.drop values.length ++ c.byName).mapM (·.resolve named)
  return ⟨values.take n ++ later, values.drop n, extra⟩

def call (c : Command σ) (r : Request) : Act σ Value := do
  let given ← liftM (c.matched r.values r.named)
  c.run given

def plain (name : String) (run : Act σ Value) : Command σ :=
  { name := name, run := fun _ => run }

def variadic (name : String) (run : List Value → Act σ Value) : Command σ :=
  { name := name, takesMore := true, run := fun g => run g.more }

def fixed (name : String) (parameters : List String) (run : List Value → Act σ Value) : Command σ :=
  { name := name, parameters := parameters.map .needed, run := fun g => run g.values }

def unary (name parameter : String) (run : Value → Act σ Value) : Command σ :=
  { name := name, parameters := [.needed parameter],
    run := fun g => match g.values with
      | [v] => run v
      | _ => throw .wrongType }

end Command

structure Instrument where
  State : Type
  start : Work State
  commands : List (Command State)
  view : State → String → Option Value := fun _ _ => none
  tellsMode : Bool := true

end EprBench
