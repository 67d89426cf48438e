import EprBench.Proofs.Pulser.UpToDate

/-! A pulse programmer whose pulses were cleared goes on like a new one. -/
namespace EprBench.Pulser

open List

namespace Device

set_option synthInstance.maxSize 1000000

variable {config : Config} {mode : Mode} {p q : Device}

/-- What clearing leaves as it is; of the number of programs played only whether there is one. -/
structure Frame where
  config : Config
  mode : Mode
  flag : Option Value
  fromFile : Bool
  recorded : Option (List String)
  counts : Bool

abbrev frame (p : Device) : Frame where
  config := p.config
  mode := p.mode
  flag := p.flag
  fromFile := p.fromFile
  recorded := p.recorded
  counts := p.updates.isSome

structure Peers (config : Config) (mode : Mode) (p q : Device) : Prop where
  frame : p.frame = (make config mode).frame
  same : ∃ n : Option Int, n.isSome = p.updates.isSome ∧ q = { p with updates := n }

namespace Peers

lemma refl (frame : p.frame = (make config mode).frame) : Peers config mode p p := ⟨frame, p.updates, rfl, rfl⟩

lemma computes (peers : Peers config mode p q) : p.fromFile = false := congrArg Frame.fromFile peers.frame

lemma made (peers : Peers config mode p q) : p.mode = mode := congrArg Frame.mode peers.frame

lemma counts (peers : Peers config .live p q) : p.updates.isSome = true := congrArg Frame.counts peers.frame

lemma recount (peers : Peers config .live p q) (m n : Int) :
    Peers config .live { p with updates := some m } { q with updates := some n } := by
  have counts := peers.counts
  obtain ⟨ordinary, n', -, rfl⟩ := peers
  refine ⟨Eq.trans ?_ ordinary, some n, rfl, rfl⟩
  rw [Device.frame, Device.frame, counts]
  rfl

end Peers

abbrev Par {α : Type} (config : Config) (mode : Mode) (x : Act Device α) : Prop := Parallel (Peers config mode) x x

lemma par_get {β : Type} {f g : Device → Act Device β}
    (each : ∀ p n, Peers config mode p { p with updates := n } → Parallel (Peers config mode) (f p) (g { p with updates := n })) :
    Parallel (Peers config mode) (get >>= f) (get >>= g) := by
  refine ⟨fun p q peers => ?_⟩
  obtain ⟨-, n, -, rfl⟩ := id peers
  exact .get_bind ((each p n peers).concurs _ _ peers)

instance {β : Type} (f g : Device → Act Device β) [each : ∀ p n, Parallel (Peers config mode) (f p) (g { p with updates := n })] :
    Parallel (Peers config mode) (get >>= f) (get >>= g) := par_get fun p n _ => each p n

lemma par_note {f g : Device → Device} (commutes : ∀ (p : Device) n, g { p with updates := n } = { f p with updates := n })
    (frame : ∀ p, (f p).frame = p.frame) : Parallel (Peers config mode) (modify f) (modify g) := by
  refine ⟨fun p q peers => .modify ?_⟩
  obtain ⟨ordinary, n, counts, rfl⟩ := peers
  have counted : (f p).updates.isSome = p.updates.isSome := congrArg Frame.counts (frame p)
  exact ⟨(frame p).trans ordinary, n, counts.trans counted.symm, commutes p n⟩

instance (f g : Device → Device) [commutes : ∀ p n, Untouched (g { p with updates := n }) { f p with updates := n }]
    [frame : ∀ p, Untouched (f p).frame p.frame] : Parallel (Peers config mode) (modify f) (modify g) :=
  par_note (fun p n => (commutes p n).eq) fun p => (frame p).eq

instance (x y : Act Device Unit) [Parallel (Peers config mode) x y] : Parallel (Peers config mode) (silent x) (silent y) :=
  Parallel.bind x y _ _

/-! ### Declaring -/

instance (r : Pulse) : Par config mode (notePhases r) := by
  dsimp only [notePhases]
  infer_instance

instance (r : Pulse) : Par config mode (takePhases r) := by
  dsimp only [takePhases]
  infer_instance

instance (r : Pulse) : Par config mode (addPulse r) := by
  refine par_get fun p n _ => ?_
  cases p.mode <;> dsimp only [declare, noteName] <;> infer_instance

instance (t : Timing) (name value : Value) : Par config mode (redefine t name value) := by
  cases t <;> dsimp only [redefine, checkName, checkTime, Timing.note] <;> infer_instance

/-! ### Moving -/

variable {m : Move} {change : Device → Device}

/-- A change that has nothing to do with the number of programs played. -/
structure Plain (change : Device → Device) : Prop where
  commutes : ∀ (p : Device) n, change { p with updates := n } = { change p with updates := n }
  frame : ∀ p, (change p).frame = p.frame

lemma plain_shifted : Plain fun p => { p with shifted := true } := ⟨fun _ _ => rfl, fun _ => rfl⟩

lemma plain_incremented : Plain fun p => { p with incremented := true } := ⟨fun _ _ => rfl, fun _ => rfl⟩

lemma par_movePulses (plain : Plain change) (names : List Value) : Par config mode (movePulses m change names) := by
  have marked (f : Device → Device) (own : Plain f) : Par config mode (modify fun p => change (f p)) :=
    par_note (fun p n => by rw [own.commutes, plain.commutes]) fun p => (plain.frame _).trans (own.frame p)
  have all : Par config mode (moveAll m change) := by
    have := marked (fun p => { p with phaseIndex := 0 }) ⟨fun _ _ => rfl, fun _ => rfl⟩
    refine par_get fun p n _ => ?_
    dsimp only
    cases (m.all p.mode {} p.pulses).2 <;> infer_instance
  have one (seen : Seen) (name : Value) : Par config mode (moveOne m change seen name) := by
    have (i : Nat) (r : Pulse) := marked (fun p => { p with pulses := p.pulses.set i r, phaseIndex := 0 })
      ⟨fun _ _ => rfl, fun _ => rfl⟩
    refine par_get fun p n _ => Parallel.seq inferInstance fun place => ?_
    cases place <;> infer_instance
  dsimp only [movePulses]
  infer_instance

instance (names : List Value) : Par config mode (movePulses m (fun p => { p with shifted := true }) names) :=
  par_movePulses plain_shifted names

instance (names : List Value) : Par config mode (movePulses m (fun p => { p with incremented := true }) names) :=
  par_movePulses plain_incremented names

/-! ### Playing -/

instance (pulses : List Properties) : Par config mode (prepare pulses) := by
  dsimp only [prepare, convertPulses, properties, sequence]
  infer_instance

instance {α : Type} : Par config mode (refuseLong : Act Device α) :=
  par_get fun p n _ => by cases p.mode <;> infer_instance

instance (pulses : List Properties) (period : Int) : Par config mode (programFor pulses period) := by
  have made : ∀ is : Option (List Instruction), Par config mode (match is with | some is => pure is | none => refuseLong)
    | some _ | none => inferInstance
  dsimp only [programFor, sequence]
  infer_instance

instance (period : Option Int) : Par config mode (currentProgram period) := by
  refine par_get fun p n peers => ?_
  dsimp only [properties]
  rw [peers.computes, if_neg Bool.false_ne_true, if_neg Bool.false_ne_true]
  cases period <;> infer_instance

instance : Par config .live countUpdate := by
  refine ⟨fun p q peers => .get_bind ?_⟩
  obtain ⟨-, n, counts, rfl⟩ := id peers
  obtain ⟨k, counted⟩ := Option.isSome_iff_exists.mp peers.counts
  obtain ⟨l, rfl⟩ := Option.isSome_iff_exists.mp (counts.trans peers.counts)
  dsimp only
  rw [counted]
  exact .modify (peers.recount (k + 1) (l + 1))

instance (toZero : Bool) {settle : Device → Device} [Par config .live (modify settle)] (time : Option Int) :
    Par config .live (play toZero settle time) := by
  dsimp only [play]
  infer_instance

instance : Par config mode (modify settle) := par_note (fun _ _ => rfl) fun _ => rfl

instance : Par config mode (modify settleReset) := par_note (fun _ _ => rfl) fun _ => rfl

instance : Par config mode update := by
  refine par_get fun p n peers => Parallel.seq inferInstance fun time => ?_
  dsimp only
  rw [peers.made]
  cases mode <;> cases time <;> dsimp only [rehearse, record, properties] <;> infer_instance

instance : Par config mode takePhase := by
  refine par_get fun p n _ => Parallel.seq inferInstance fun _ => ?_
  dsimp only
  split <;> infer_instance

instance : Par config mode nextPhase := by
  dsimp only [nextPhase, checkPhases]
  infer_instance

/-! ### Going back -/

instance (cycle : Value) : Par config .live (restartCount cycle) := by
  have counted : Par config .live (modify fun p => { p with updates := some 0 }) :=
    ⟨fun _ _ peers => .modify (peers.recount 0 0)⟩
  dsimp only [restartCount]
  infer_instance

instance (cycle : Value) : Par config mode (reset cycle) := by
  refine par_get fun p n peers => Parallel.seq inferInstance fun time => ?_
  dsimp only
  rw [peers.made]
  cases mode <;> cases time <;> infer_instance

instance (name : Value) : Par config mode (restoreOne name) := by
  refine par_get fun p n _ => Parallel.seq inferInstance fun place => ?_
  cases place <;> dsimp only [unsettle] <;> infer_instance

instance (names : List Value) (cycle : Value) : Par config mode (restore names cycle) := by
  refine par_get fun p n peers => ?_
  dsimp only [unsettle]
  rw [peers.made]
  cases mode with
  | live => infer_instance
  | rehearsal =>
    rw [if_neg (by decide : ¬ (Mode.rehearsal == Mode.live) = true)]
    infer_instance

instance : Par config mode visualize := by
  dsimp only [visualize, properties]
  infer_instance

end Device

/-! ### Requests -/

open Device

variable {config : Config} {mode : Mode} {p q : Device} {r : Request} {rs : List Request}

/-- A request that declares and plays pulses, sets no mode and has nothing to do with a file of programs. -/
def Ordinary (r : Request) : Prop :=
  Offered r ∧ r.name ≠ "pulser_test_flag" ∧ r.name ≠ "pulser_instruction_from_file"

instance (r : Request) : Decidable (Ordinary r) := inferInstanceAs (Decidable (_ ∧ _))

instance (values : List Value) : Par config mode (declaration values) := by
  unfold declaration
  split <;> infer_instance

instance (t : Timing) (values : List Value) : Par config mode (redefinitionOf t values) := by
  unfold redefinitionOf
  split <;> infer_instance

instance (values : List Value) : Par config mode (repetitionRate values) := by
  unfold repetitionRate
  split <;> infer_instance

lemma par_run {c : Command Device} (member : c ∈ declaring ++ playing) (modes : c.name ≠ "pulser_test_flag")
    (files : c.name ≠ "pulser_instruction_from_file") (g : Given) : Par config mode (c.run g) := by
  simp only [declaring, playing, cons_append, nil_append, mem_cons, not_mem_nil, or_false] at member
  have cleans : Par config mode (modify Device.cleared) := par_note (fun _ _ => rfl) fun _ => rfl
  repeat' rcases member with rfl | member
  all_goals first
    | exact absurd rfl modes
    | exact absurd rfl files
    | (dsimp only [Command.plain, Command.variadic, declaring.redefinition]; infer_instance)
    | skip
  refine par_get fun p n _ => ?_
  dsimp only
  split <;> infer_instance

def reply (r : Request) : Act Device Value :=
  match Call.commandOf r with
  | none => throw .noMember
  | some c => c.call r

lemma par_reply (ordinary : Ordinary r) : Par config mode (reply r) := by
  obtain ⟨offered, modes, files⟩ := ordinary
  obtain ⟨c, member, command, name⟩ := exists_offered offered
  rw [← name] at modes files
  rw [reply, command]
  exact Parallel.seq inferInstance fun g => par_run member modes files g

lemma par_carryOut (ordinary : Ordinary r) : Par config mode (carryOut r) := by
  have same : Par config mode (reply r) := par_reply ordinary
  obtain ⟨c, -, command, -⟩ := exists_offered ordinary.1
  rw [reply, command] at same
  rw [carryOut, command]
  exact same.seq inferInstance

/-! ### Whole scripts -/

lemma after_append (rs rs' : List Request) (p : Device) (b : Bench) :
    after (rs ++ rs') p b = after rs' (after rs p b).1 (after rs p b).2 := by
  induction rs generalizing p b with
  | nil => rfl
  | cons r rs ih => exact ih _ _

lemma frame_after (ordinary : ∀ r ∈ rs, Ordinary r) (frame : p.frame = (make config mode).frame) (b : Bench) :
    (after rs p b).1.frame = (make config mode).frame := by
  induction rs generalizing p b with
  | nil => exact frame
  | cons r rs ih =>
    obtain ⟨here, later⟩ := forall_mem_cons.mp ordinary
    obtain ⟨-, -, peers⟩ := ((par_carryOut here).concurs _ _ (Peers.refl frame)).agree b
    exact ih later peers.frame _

lemma Device.peers_cleared (frame : p.frame = (make config mode).frame) : Peers config mode p.cleared (make config mode) := by
  refine ⟨frame, (make config mode).updates, (congrArg Frame.counts frame).symm, ?_⟩
  simp only [Device.frame, Frame.mk.injEq] at frame
  obtain ⟨config, mode, flag, file, recorded, -⟩ := frame
  simp only [cleared, config, mode, flag, file, recorded]
  rfl

/-- What requests come to, one after the other, also after one that fails: their answers, and the bench in the end. -/
def replies : List Request → Device → Bench → List (Outcome Value) × Bench
  | [], _, b => ([], b)
  | r :: rs, p, b =>
    let ran := perform (reply r) p b
    let later := replies rs ran.1.2 ran.2
    (ran.1.1 :: later.1, later.2)

lemma replies_eq (ordinary : ∀ r ∈ rs, Ordinary r) (peers : Peers config mode p q) (b : Bench) :
    replies rs q b = replies rs p b := by
  induction rs generalizing p q b with
  | nil => rfl
  | cons r rs ih =>
    obtain ⟨here, later⟩ := forall_mem_cons.mp ordinary
    obtain ⟨answer, bench, peers⟩ := ((par_reply here).concurs _ _ peers).agree b
    rw [replies, replies, answer, bench]
    rw [ih later peers]

def clearing : Request where
  name := "pulser_clear"

/-- After all pulses were cleared, every script comes to the same answers and the same bench as with a new device of the same
configuration and mode, whatever was asked before and whether it succeeded, on every bench. -/
theorem cleared_replies_like_new (config : Config) (mode : Mode) {before rs : List Request}
    (ordinary : ∀ r ∈ before ++ rs, Ordinary r) (b c : Bench) :
    replies rs (after (before ++ [clearing]) (make config mode) b).1 c = replies rs (make config mode) c := by
  obtain ⟨earlier, later⟩ := forall_mem_append.mp ordinary
  have frame : (after before (make config mode) b).1.frame = (make config mode).frame := frame_after earlier rfl b
  have cleared : (after (before ++ [clearing]) (make config mode) b).1 = (after before (make config mode) b).1.cleared := by
    rw [after_append]
    rfl
  rw [cleared]
  exact (replies_eq later (peers_cleared frame) c).symm

/-- A pulse of a name that was there before is declared and played at the rate of the configuration. -/
def anew : List Request := [
  declares "P1" "MW" "300 ns" "20 ns" [("phase_list", .list ["+x"])],
  { name := "pulser_next_phase" },
  { name := "pulser_repetition_rate" },
  { name := "pulser_reset" }]

/-- The number of programs played is all that is left of the session before. -/
theorem tuned_cleared_replies_like_new : (∀ r ∈ (tuning ++ [{ name := "pulser_update" }]) ++ anew, Ordinary r) ∧
      (after ((tuning ++ [{ name := "pulser_update" }]) ++ [clearing]) (make .factory .live) {}).1.updates = some 1 ∧
      (replies anew (make .factory .live) {}).1.all Except.isOk = true ∧
      replies anew (after ((tuning ++ [{ name := "pulser_update" }]) ++ [clearing]) (make .factory .live) {}).1 {} =
        replies anew (make .factory .live) {} := by
  have ordinary : ∀ r ∈ (tuning ++ [{ name := "pulser_update" }]) ++ anew, Ordinary r := by decide +kernel
  exact ⟨ordinary, by decide +kernel, by decide +kernel, cleared_replies_like_new .factory .live ordinary {} {}⟩

end EprBench.Pulser
