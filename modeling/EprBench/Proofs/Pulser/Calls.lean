import EprBench.Proofs.Pulser.Boards
import EprBench.Proofs.Pulser.Steps
import EprBench.Pulser.Commands

/-! The calls of a script that declares, moves and plays pulses, and what a live session plays for each of them. -/
namespace EprBench.Pulser

open Device List

/-- A call with its arguments. -/
inductive Call where
  | declare (q : Pulse)
  | redefine (t : Timing) (name value : Value)
  | askRate
  | setRate (rate : Value)
  | update
  | nextPhase
  | shift (names : List Value)
  | increment (names : List Value)
  | reset (cycle : Value)
  | restore (names : List Value) (cycle : Value)

namespace Call

def act : Call → Act Device Unit
  | declare q => addPulse q
  | redefine t name value => Device.redefine t name value
  | askRate => return
  | setRate rate => modify fun p => { p with rate := rate, rated := true }
  | update => Device.update
  | nextPhase => Device.nextPhase
  | shift names => movePulses .shift (fun p => { p with shifted := true }) names
  | increment names => do
    let p ← get
    movePulses (.increment p.config) (fun p => { p with incremented := true }) names
  | reset cycle => Device.reset cycle
  | restore names cycle => Device.restore names cycle

def Silent : Call → Prop
  | update | nextPhase | reset _ => False
  | _ => True

lemma ends {call : Call} (silent : call.Silent) (p : Device) :
    Ends (fun _ s => Steps p s ∨ ∃ r n, call = .declare r ∧ s = p.holdingAlso r n) call.act p := by
  cases call with
  | declare r => exact (ends_addPulse r p).mono fun _ _ ⟨n, _, same⟩ => Or.inr ⟨r, n, rfl, same⟩
  | redefine t name value => exact (ends_redefine t name value p).mono fun _ _ => Or.inl
  | askRate => exact .pure (Or.inl (Steps.refl p))
  | setRate rate => exact .modify (Or.inl (Steps.of_marked rfl rfl (Or.inl rfl) (by simp [marked])))
  | shift names => exact (ends_movePulses (fun _ _ => rfl) marks_shifted names p).mono fun _ _ => Or.inl
  | increment names =>
    exact .get_bind ((ends_movePulses (fun _ _ => rfl) marks_incremented names p).mono fun _ _ => Or.inl)
  | restore names cycle => exact (ends_restore names cycle p).mono fun _ _ => Or.inl
  | update | nextPhase | reset => exact silent.elim

/-- The declaration of a pulse by its properties. -/
def declaration : List Value → Outcome Call
  | [name, channel, start, length, deltaStart, growth, phases] =>
    .ok (.declare ⟨name, channel, start, length, deltaStart, growth, phases⟩)
  | _ => .error .wrongType

def redefinition (t : Timing) : List Value → Outcome Call
  | [name, value] => .ok (.redefine t name value)
  | _ => .error .wrongType

/-- The rate is set by a single value; otherwise nothing happens. -/
def rate : List Value → Call
  | [rate] => .setRate rate
  | _ => .askRate

/-- The commands of such a script, and the calls that they mean. -/
def meanings : List (String × (Given → Outcome Call)) := [
  ("pulser_pulse", fun g => declaration g.values),
  ("pulser_redefine_start", fun g => redefinition .start g.values),
  ("pulser_redefine_delta_start", fun g => redefinition .deltaStart g.values),
  ("pulser_redefine_length_increment", fun g => redefinition .lengthIncrement g.values),
  ("pulser_repetition_rate", fun g => .ok (rate g.more)),
  ("pulser_update", fun _ => .ok .update),
  ("pulser_next_phase", fun _ => .ok .nextPhase),
  ("pulser_shift", fun g => .ok (.shift g.more)),
  ("pulser_increment", fun g => .ok (.increment g.more)),
  ("pulser_reset", fun g => .ok (.reset (g.values.headD .nothing))),
  ("pulser_pulse_reset", fun g => .ok (.restore g.more (g.values.headD .nothing)))]

def commandOf (r : Request) : Option (Command Device) := programmer.commands.find? (·.name == r.name)

def ofRequest (r : Request) : Outcome Call :=
  match commandOf r, meanings.lookup r.name with
  | some c, some means => c.matched r.values r.named >>= means
  | _, _ => .error .noMember

/-- A request for one of these commands. -/
def Understood (r : Request) : Prop := (meanings.lookup r.name).isSome

instance (r : Request) : Decidable (Understood r) := inferInstanceAs (Decidable ((meanings.lookup r.name).isSome = true))

end Call

def carryOut (r : Request) : Act Device Unit :=
  match Call.commandOf r with
  | none => throw .noMember
  | some c => do
    let _ ← c.call r

def script (rs : List Request) : Act Device Unit := rs.forM carryOut

lemma script_nil : script [] = pure () := forM_nil

lemma script_cons (r : Request) (rs : List Request) : script (r :: rs) = carryOut r >>= fun _ => script rs :=
  forM_cons

def declares (name channel start length : String) (more : Options := []) : Request :=
  { name := "pulser_pulse", named := [("name", .text name), ("channel", .text channel), ("start", .text start),
      ("length", .text length)] ++ more }

namespace Call

lemma perform_silent {x : Act Device Unit} (p : Device) (b : Bench) :
    perform (silent x >>= fun _ => pure ()) p b = perform x p b := by
  rw [silent, perform_bind, perform_bind]
  rcases perform x p b with ⟨⟨e | ⟨⟩, p'⟩, b'⟩
  · rfl
  · rfl

def Means (run : Given → Act Device Value) (means : Given → Outcome Call) : Prop :=
  ∀ g p b, perform (run g >>= fun _ => pure ()) p b =
    match means g with
    | .error e => ((.error e, p), b)
    | .ok call => perform call.act p b

lemma means_silent (call : Given → Call) : Means (fun g => silent (call g).act) (fun g => .ok (call g)) :=
  fun _ => perform_silent

lemma means_declaration : Means (fun g => Device.declaration g.values) (fun g => declaration g.values) := by
  rintro ⟨values, -, -⟩ p b
  rcases values with _ | ⟨_, _ | ⟨_, _ | ⟨_, _ | ⟨_, _ | ⟨_, _ | ⟨_, _ | ⟨_, _ | ⟨_, _⟩⟩⟩⟩⟩⟩⟩⟩
  case cons.cons.cons.cons.cons.cons.cons.nil => exact perform_silent p b
  all_goals rfl

lemma means_redefinition (t : Timing) : Means (fun g => redefinitionOf t g.values) (fun g => redefinition t g.values) := by
  rintro ⟨values, -, -⟩ p b
  rcases values with _ | ⟨_, _ | ⟨_, _ | ⟨_, _⟩⟩⟩
  · rfl
  · rfl
  · exact perform_silent p b
  · rfl

lemma means_rate : Means (fun g => repetitionRate g.more) (fun g => .ok (rate g.more)) := by
  rintro ⟨-, values, -⟩ p b
  rcases values with _ | ⟨_, _ | ⟨_, _⟩⟩
  · rfl
  · exact perform_silent p b
  · rfl

lemma means_increment : Means (fun g => do
    let p ← get
    silent (movePulses (.increment p.config) (fun p => { p with incremented := true }) g.more))
    (fun g => .ok (.increment g.more)) := by
  intro g p b
  rw [perform_bind, perform_get_bind, ← perform_bind, perform_silent]
  simp only [act]
  rw [perform_get_bind]

def commandRuns : List (Given → Act Device Value) := [
  fun g => Device.declaration g.values,
  fun g => redefinitionOf .start g.values,
  fun g => redefinitionOf .deltaStart g.values,
  fun g => redefinitionOf .lengthIncrement g.values,
  fun g => repetitionRate g.more,
  fun _ => silent Device.update,
  fun _ => silent Device.nextPhase,
  fun g => silent (movePulses .shift (fun p => { p with shifted := true }) g.more),
  fun g => do
    let p ← get
    silent (movePulses (.increment p.config) (fun p => { p with incremented := true }) g.more),
  fun g => silent (Device.reset (g.values.headD .nothing)),
  fun g => silent (Device.restore g.more (g.values.headD .nothing))]

lemma means_of_name : Forall₂ (fun run entry =>
    (programmer.commands.find? (·.name == entry.1)).map Command.run = some run ∧ Means run entry.2)
    commandRuns meanings := by
  simp only [commandRuns, meanings, programmer, declaring, playing, forall₂_cons, forall₂_nil_left_iff,
    find?_append, find?_cons, find?_nil, Command.plain, Command.variadic, Command.unary,
    declaring.redefinition, Timing.property, String.reduceBEq, String.reduceAppend, Option.none_or, Option.some_or,
    Option.map_some, true_and, and_true]
  exact ⟨means_declaration, means_redefinition _, means_redefinition _, means_redefinition _, means_rate,
    means_silent fun _ => .update, means_silent fun _ => .nextPhase, means_silent fun g => .shift g.more, means_increment,
    means_silent fun g => .reset (g.values.headD .nothing),
    means_silent fun g => .restore g.more (g.values.headD .nothing)⟩

lemma exists_of_lookup {α β : Type} {R : α → String × β → Prop} {xs : List α} {table : List (String × β)}
    (related : Forall₂ R xs table) {name : String} {b : β} (found : table.lookup name = some b) :
    ∃ a, R a (name, b) := by
  induction related with
  | nil => simp at found
  | @cons a entry _ _ here _ ih =>
    obtain ⟨key, value⟩ := entry
    rw [lookup_cons] at found
    split at found
    · rename_i same
      obtain rfl := Option.some.inj found
      exact ⟨a, beq_iff_eq.mp same ▸ here⟩
    · exact ih found

lemma exists_command {r : Request} (understood : Understood r) :
    ∃ c means, commandOf r = some c ∧ meanings.lookup r.name = some means ∧ Means c.run means := by
  obtain ⟨means, found⟩ := Option.isSome_iff_exists.mp understood
  obtain ⟨run, known, does⟩ := exists_of_lookup means_of_name found
  obtain ⟨c, command, rfl⟩ := Option.map_eq_some_iff.mp known
  exact ⟨c, means, command, found, does⟩

lemma perform_carryOut {r : Request} (understood : Understood r) (p : Device) (b : Bench) : perform (carryOut r) p b =
      match ofRequest r with
      | .error e => ((.error e, p), b)
      | .ok call => perform call.act p b := by
  obtain ⟨c, means, command, meaning, does⟩ := exists_command understood
  simp only [carryOut, ofRequest, command, meaning, Command.call]
  rw [perform_bind, perform_bind, perform_lift]
  rcases c.matched r.values r.named with e | g
  · rfl
  · have step := does g p b
    rw [perform_bind] at step
    exact step

lemma exists_call {r : Request} (understood : Understood r) {p p' : Device} {b b' : Bench}
    (done : perform (carryOut r) p b = ((.ok (), p'), b')) :
    ∃ call, ofRequest r = .ok call ∧ ∀ q c, perform (carryOut r) q c = perform call.act q c := by
  rcases request : ofRequest r with e | call
  · rw [perform_carryOut understood, request] at done
    simp at done
  · exact ⟨call, rfl, fun q c => by rw [perform_carryOut understood, request]⟩

end Call

end EprBench.Pulser
