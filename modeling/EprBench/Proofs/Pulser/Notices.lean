import EprBench.Proofs.Pulser.Memory
import EprBench.Proofs.Pulser.Playing
import EprBench.Pulser.Commands

/-! What a device takes notice of, whether a call fails or not. -/
namespace EprBench.Pulser.Device

open Outcome

variable {flag : Device → Device}

/-- A device and its bench before and after something that takes back no mark. -/
structure Holds (x y : Device × Bench) : Prop where
  mode : y.1.mode = x.1.mode
  fromFile : y.1.fromFile = x.1.fromFile
  marks : x.1.marked = true → y.1.marked = true

instance : IsPreorder (Device × Bench) Holds where
  refl _ := ⟨rfl, rfl, id⟩
  trans _ _ _ first second :=
    ⟨second.mode.trans first.mode, second.fromFile.trans first.fromFile, fun mark => second.marks (first.marks mark)⟩

structure Minds (x y : Device × Bench) : Prop extends Holds x y where
  noticed : y.1.marked = true ∨
    (∀ is, x.1.program = .ok (some is) → y.1.program = .ok (some is)) ∧ Board.memory y.2 = Board.memory x.2

instance : IsPreorder (Device × Bench) Minds where
  refl x := ⟨Std.Refl.refl (r := Holds) x, Or.inr ⟨fun _ => id, rfl⟩⟩
  trans x y z first second := by
    refine ⟨IsTrans.trans (r := Holds) x y z first.toHolds second.toHolds, ?_⟩
    rcases second.noticed with mark | ⟨program, memory⟩
    · exact .inl mark
    · rcases first.noticed with mark | ⟨program', memory'⟩
      · exact .inl (second.marks mark)
      · exact .inr ⟨fun is made => program is (program' is made), memory.trans memory'⟩

variable {p q : Device} {b b' : Bench}

lemma Minds.of_marked (mode : q.mode = p.mode) (fromFile : q.fromFile = p.fromFile) (mark : q.marked = true) :
    Minds (p, b) (q, b') :=
  ⟨⟨mode, fromFile, fun _ => mark⟩, Or.inl mark⟩

lemma Holds.minds (holds : Holds (p, b) (q, b')) (mark : p.marked = true) : Minds (p, b) (q, b') :=
  ⟨holds, Or.inl (holds.marks mark)⟩

lemma program_congr (alike : Alike q p) (mode : q.mode = p.mode) (rate : q.rate = p.rate)
    {made : Option (List Instruction)} (computed : p.program = .ok made) : q.program = .ok made := by
  obtain ⟨time, known, computed⟩ := bind_eq_ok.mp computed
  cases time with
  | none => simp at computed
  | some t =>
    rw [program_eq (rate ▸ known)]
    exact programOf_congr alike mode computed

lemma Minds.of_alike (alike : Alike q p) (mode : q.mode = p.mode) (rate : q.rate = p.rate)
    (fromFile : q.fromFile = p.fromFile) (mark : q.marked = p.marked) (memory : Board.memory b' = Board.memory b) :
    Minds (p, b) (q, b') :=
  ⟨⟨mode, fromFile, fun marked => mark.trans marked⟩, Or.inr ⟨fun _ => program_congr alike mode rate, memory⟩⟩

lemma minds_work {α : Type} {x : Work α} (noting : Noting Board.Unheard x) (p : Device) :
    Within Minds (liftM x : Act Device α) p := by
  intro b
  rw [perform_work]
  exact .of_alike (Alike.of_pulses rfl rfl rfl rfl) rfl rfl rfl rfl (Board.memory_of_adds (noting b))

lemma holds_work {α : Type} (x : Work α) (p : Device) : Within Holds (liftM x : Act Device α) p :=
  fun _ => ⟨rfl, rfl, id⟩

lemma within_silent {R : Device × Bench → Device × Bench → Prop} {x : Act Device Unit} (within : Within R x p) :
    Within R (silent x) p := within.bind_pure _

/-! ### Declaring and redefining -/

lemma holds_notePhases (r : Pulse) (p : Device) : Within Holds (notePhases r) p :=
  Within.lift_bind fun _ _ => .modify fun _ => ⟨rfl, rfl, id⟩

lemma holds_declare (r : Pulse) (p : Device) : Within Holds (declare r) p := Within.modify fun _ => ⟨rfl, rfl, id⟩

lemma holds_noteName (r : Pulse) (p : Device) : Within Holds (noteName r) p := Within.modify fun _ => ⟨rfl, rfl, id⟩

lemma holds_takePhases (r : Pulse) (p : Device) : Within Holds (takePhases r) p := by
  refine .lift_bind fun microwave _ => ?_
  split
  · exact holds_notePhases r p
  · refine .lift_bind fun trigger _ => ?_
    split
    · exact .lift_bind fun _ _ => .lift _
    · exact .pure _

lemma holds_addPulse (r : Pulse) (p : Device) : Within Holds (addPulse r) p := by
  refine .get_bind ?_
  cases p.mode with
  | live =>
    refine (holds_declare r p).bind fun _ p => (holds_noteName r p).bind fun _ p => .lift_bind fun microwave _ => ?_
    split
    · exact holds_notePhases r p
    · exact .pure _
  | rehearsal =>
    refine (holds_takePhases r p).bind fun _ p => .lift_bind fun _ _ => .lift_bind fun _ _ => ?_
    exact (holds_noteName r p).bind fun _ p => .lift_bind fun _ _ => holds_declare r p

lemma minds_redefine (t : Timing) (name value : Value) (p : Device) : Within Minds (redefine t name value) p := by
  have checkName (p : Device) : Within Minds (checkName name) p := by
    refine .get_bind ?_
    split
    · exact .lift_bind fun _ _ => .lift _
    · exact .pure _
  have checkTime (p : Device) : Within Minds (checkTime t value) p := by
    refine .get_bind ?_
    split
    · exact .lift _
    · exact .pure _
  refine (checkName p).bind fun _ p => .get_bind (Within.forM (fun ⟨r, i⟩ p => .lift_bind fun named _ => ?_) _ _)
  split
  · refine (checkTime p).bind fun _ p => .modify fun _ => .of_marked ?_ ?_ (t.marks_note.marked _)
    · cases t <;> rfl
    · cases t <;> rfl
  · exact .pure _

/-! ### Moving -/

lemma Marks.minds (marks : Marks flag) (mode : q.mode = p.mode) (fromFile : q.fromFile = p.fromFile) :
    Minds (p, b) (flag q, b') := by
  have same := marks.fixed q
  refine .of_marked ((congrArg Device.mode same).trans mode) ((congrArg Device.fromFile same).trans fromFile) ?_
  exact marks.marked q

lemma holds_moveAll (m : Move) (marks : Marks flag) (p : Device) : Within Holds (moveAll m flag) p := by
  refine .get_bind ?_
  generalize m.all p.mode {} p.pulses = made
  obtain ⟨pulses, fault⟩ := made
  refine .bind (.modify fun _ => ⟨rfl, rfl, id⟩) fun _ p => ?_
  cases fault with
  | some f => exact .throw f
  | none => exact .modify fun _ => (marks.minds (p := p) (q := { p with phaseIndex := 0 }) rfl rfl).toHolds

lemma minds_moveOne (m : Move) (marks : Marks flag) (seen : Seen) (name : Value) (p : Device) :
    Within Minds (moveOne m flag seen name) p := by
  refine .get_bind (Within.lift_bind fun place _ => ?_)
  cases place with
  | none => exact .lift_bind fun _ _ => .pure _
  | some i =>
    refine .lift_bind fun q _ => .lift_bind fun ⟨q', seen'⟩ _ => ?_
    exact .bind (.modify fun _ => marks.minds rfl rfl) fun _ _ => .pure _

lemma minds_movePulses (m : Move) (marks : Marks flag) {names : List Value} (some : names ≠ [])
    (p : Device) : Within Minds (movePulses m flag names) p := by
  rw [movePulses, if_neg (by simpa using some)]
  refine .lift_bind fun _ _ => .bind ?_ fun _ _ => .pure _
  exact .foldlM (minds_moveOne m marks) _ _ _

/-! ### Going back -/

lemma minds_restartCount (cycle : Value) (p : Device) : Within Minds (restartCount cycle) p := by
  refine .lift_bind fun restarts _ => ?_
  split
  · exact .modify fun _ => .of_alike (Alike.of_pulses rfl rfl rfl rfl) rfl rfl rfl rfl rfl
  · exact .pure _

lemma minds_restoreOne (name : Value) (p : Device) : Within Minds (restoreOne name) p := by
  refine .get_bind (Within.lift_bind fun place _ => ?_)
  cases place with
  | none => exact .pure _
  | some i =>
    refine .lift_bind fun _ _ => .lift_bind fun _ _ => ?_
    exact .modify fun _ => .of_marked rfl rfl (unsettle_marked _)

lemma minds_restore (names : List Value) (cycle : Value) (p : Device) : Within Minds (restore names cycle) p := by
  refine .get_bind ?_
  split
  · refine .bind (.modify fun _ => .of_marked rfl rfl (unsettle_marked _)) fun _ q => ?_
    split
    · exact minds_restartCount cycle q
    · exact .pure _
  · exact .lift_bind fun _ _ => .forM minds_restoreOne _ _

/-! ### Phases -/

lemma minds_takePhase (set : p.marked = true ∨ p.nextStep.touched = true ∨ p.phasePulses = 0) :
    Within Minds takePhase p := by
  have noticed : ∀ b, Minds (p, b) ({ p.withPhase with phaseIndex := p.phaseIndex }, b) := by
    intro b
    refine ⟨⟨rfl, rfl, (keeps_withPhase p).marks⟩, ?_⟩
    rcases noticed_withPhase set with mark | ⟨pulses, rate⟩
    · exact .inl mark
    · have same : p.withPhase.properties = p.properties := congrArg (List.map Properties.ofPulse) pulses
      have alike : Alike { p.withPhase with phaseIndex := p.phaseIndex } p :=
        Alike.of_pulses rfl pulses rfl (congrArg p.windowedAfter same)
      exact .inr ⟨fun _ => program_congr alike rfl rate, rfl⟩
  refine .get_bind (Within.bind (.modify noticed) fun _ q => ?_)
  split
  · exact .throw _
  · exact .modify fun _ => .of_alike (Alike.of_pulses rfl rfl rfl rfl) rfl rfl rfl rfl rfl

/-! ### Looking -/

lemma unheard_use : Noting Board.Unheard Board.use :=
  Board.noting_library (fun _ => rfl) (Board.unheard_call _ (by decide))

lemma unheard_begin : Noting Board.Unheard Board.begin :=
  (Board.noting_ask unheard_use (Board.unheard_call _ (by decide))).bind fun _ =>
    Board.noting_expect unheard_use (Board.unheard_call _ (by decide)) _ _

lemma unheard_status : Noting Board.Unheard Board.status := by
  refine .bind (Board.noting_ask unheard_use (Board.unheard_call _ (by decide))) fun _ => ?_
  refine (Noting.lift _).bind fun _ => (Noting.lift _).bind fun _ => (Noting.lift _).bind fun _ => ?_
  exact (Noting.lift _).bind fun _ => (Noting.lift _).bind fun _ => .pure _

lemma unheard_drawNow (frames : Outcome (List Plot.Frame)) : Noting Board.Unheard (Script.drawNow frames) :=
  Noting.drawNow (fun _ _ _ => rfl) (fun _ _ => rfl) (fun _ => rfl) frames

lemma alike_windowed (p : Device) : Alike { p with windowed := p.windowedAfter p.properties } p := by
  refine Alike.of_pulses rfl rfl rfl ?_
  show (p.windowedAfter p.properties || p.properties.any Properties.windowed) = p.windowedAfter p.properties
  rw [windowedAfter, Bool.or_assoc, Bool.or_self]

lemma minds_prepare (p : Device) : Within Minds (prepare p.properties) p := by
  intro b
  obtain ⟨w, prepared⟩ := prepare_frame p.properties p
  rw [prepared]
  refine ⟨⟨rfl, rfl, id⟩, Or.inr ⟨fun is made => ?_, rfl⟩⟩
  obtain ⟨time, -, computed⟩ := bind_eq_ok.mp (id made)
  cases time with
  | none => simp at computed
  | some t =>
    obtain ⟨rows, done, -⟩ := bind_eq_ok.mp computed
    have met : ({ p with windowed := w } : Device) = { p with windowed := p.windowedAfter p.properties } := by
      have same := (prepared b).symm.trans (perform_prepare_own done b)
      exact congrArg (fun r => r.1.2) same
    show Device.program { p with windowed := w } = _
    rw [met]
    exact program_congr (alike_windowed p) rfl rfl made

lemma minds_visualize (p : Device) : Within Minds visualize p := by
  refine .get_bind ?_
  split
  · refine .lift_bind fun _ _ => (minds_prepare p).bind fun _ _ => .lift_bind fun _ _ => ?_
    exact (minds_work (unheard_drawNow _) _).bind fun _ _ => .pure _
  · exact .pure _

end EprBench.Pulser.Device
