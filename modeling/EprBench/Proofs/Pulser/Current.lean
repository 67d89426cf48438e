import EprBench.Proofs.Pulser.Calls
import EprBench.Proofs.Pulser.Notices

/-! A live session keeps the board playing the current program. Every call preserves this, apart from a few that
change something and leave no mark. -/
namespace EprBench.Pulser

open List

namespace Device

/-- The board has taken in the program of the current pulses at the current rate and was started with it. -/
def Plays (p : Device) (b : Bench) : Prop :=
  ∃ is, p.program = .ok (some is) ∧ Board.memory b = .playingOf (Board.telling is)

structure Current (p : Device) (b : Bench) : Prop where
  live : p.mode = .live
  computes : p.fromFile = false
  plays : p.marked = true ∨ p.Plays b

def Preserves (x y : Device × Bench) : Prop := Current x.1 x.2 → Current y.1 y.2

instance : IsPreorder (Device × Bench) Preserves where
  refl _ := id
  trans _ _ _ first second current := second (first current)

variable {p q : Device} {b b' : Bench}

lemma Minds.preserves {x y : Device × Bench} (minds : Minds x y) : Preserves x y := by
  intro current
  refine ⟨minds.mode.trans current.live, minds.fromFile.trans current.computes, ?_⟩
  rcases minds.noticed with mark | ⟨program, memory⟩
  · exact .inl mark
  · rcases current.plays with mark | ⟨is, made, playing⟩
    · exact .inl (minds.marks mark)
    · exact .inr ⟨is, program is made, memory.trans playing⟩

lemma Current.of_marked (current : Current p b) (mode : q.mode = p.mode) (fromFile : q.fromFile = p.fromFile)
    (mark : q.marked = true) : Current q b' :=
  ⟨mode.trans current.live, fromFile.trans current.computes, Or.inl mark⟩

/-! ### Playing -/

/-- A way to note that the board plays the current program. -/
structure Settles (settle : Device → Device) : Prop where
  alike : ∀ p, Alike (settle p) p
  mode : ∀ p, (settle p).mode = p.mode
  rate : ∀ p, (settle p).rate = p.rate
  fromFile : ∀ p, (settle p).fromFile = p.fromFile

lemma settles_settle : Settles settle :=
  ⟨fun _ => Alike.of_pulses rfl rfl rfl rfl, fun _ => rfl, fun _ => rfl, fun _ => rfl⟩

lemma settles_settleReset : Settles settleReset :=
  ⟨fun _ => Alike.of_pulses rfl rfl rfl rfl, fun _ => rfl, fun _ => rfl, fun _ => rfl⟩

lemma refuseLong_fails (p : Device) (b : Bench) {α : Type} :
    ∃ e c, perform (refuseLong : Act Device α) p b = ((.error e, p), c) := by
  rw [refuseLong, perform_get_bind]
  cases p.mode with
  | live =>
    obtain ⟨c, stopped⟩ := carry_stop (α := α) Sequence.tooLong b
    refine ⟨.stopped, c, ?_⟩
    dsimp only
    rw [perform_work, stopped]
  | rehearsal => exact ⟨_, _, rfl⟩

lemma countUpdate_frame (p : Device) (b : Bench) :
    ∃ r u, perform countUpdate p b = ((r, { p with updates := u }), b) := by
  cases counts : p.updates with
  | some n => exact ⟨.ok (), _, perform_countUpdate counts b⟩
  | none =>
    have refused : perform countUpdate p b = ((.error .noMember, p), b) := by
      rw [countUpdate, perform_get_bind, counts]
      rfl
    exact ⟨.error .noMember, p.updates, refused⟩

lemma play_cases {time : Option Int} (rate : period p.rate = .ok time) (computes : p.fromFile = false)
    {settle : Device → Device} (settles : Settles settle) (toZero : Bool) (b : Bench) :
    (∃ e w c, perform (play toZero settle time) p b = ((.error e, { p with windowed := w }), c)) ∨
    ∃ r q c, perform (play toZero settle time) p b = ((r, q), c) ∧ q.mode = p.mode ∧ q.fromFile = p.fromFile ∧ q.Plays c := by
  cases time with
  | none =>
    have missing : perform (currentProgram none) p b = ((.error .notAssigned, p), b) := by
      rw [currentProgram, perform_get_bind, computes]
      rfl
    exact .inl ⟨_, p.windowed, b, perform_play_fault missing toZero settle⟩
  | some t =>
    obtain ⟨w, computed⟩ := perform_programFor p.properties t p
    have taken := (perform_currentProgram computes t b).trans (computed b)
    rcases program : p.programOf p.properties t with e | _ | is
    · rw [program] at taken
      exact .inl ⟨e, w, b, perform_play_fault taken toZero settle⟩
    · obtain ⟨e, c, refused⟩ := refuseLong_fails (α := List Instruction) { p with windowed := w } b
      rw [program] at taken
      exact .inl ⟨e, w, c, perform_play_fault (taken.trans refused) toZero settle⟩
    · have own := (perform_currentProgram computes t b).trans (perform_programFor_own program b)
      rw [perform_play_current own]
      rcases loaded : carry (Board.play p.config.clock toZero is) b with ⟨e | u, c⟩
      · exact .inl ⟨e, _, c, rfl⟩
      · let q : Device := { p with windowed := p.windowedAfter p.properties }
        obtain ⟨r, u, counted⟩ := countUpdate_frame (settle q) c
        refine .inr ⟨r, _, c, counted, settles.mode q, settles.fromFile q, is, ?_, Board.memory_of_play loaded⟩
        have here : q.program = .ok (some is) :=
          program_congr (alike_windowed p) rfl rfl ((program_eq rate).trans program)
        have settled : (settle q).program = .ok (some is) :=
          program_congr (settles.alike q) (settles.mode q) (settles.rate q) here
        have alike : Alike { settle q with updates := u } (settle q) := Alike.of_pulses rfl rfl rfl rfl
        exact program_congr alike rfl rfl settled

lemma update_current (current : Current p b) {r : Outcome Unit} (updated : perform update p b = ((r, q), b')) :
    Current q b' ∧ (r = .ok () → q.Plays b') := by
  rw [perform_update_live current.live] at updated
  rcases rate : period p.rate with e | time
  · rw [rate, Prod.mk.injEq, Prod.mk.injEq] at updated
    obtain ⟨⟨rfl, rfl⟩, rfl⟩ := updated
    exact ⟨current, nofun⟩
  · rw [rate] at updated
    dsimp only at updated
    by_cases mark : p.marked = true
    · rw [if_pos mark] at updated
      rcases play_cases rate current.computes settles_settle false b with ⟨e, w, c, failed⟩ | ⟨r, q, c, played, mode, file, plays⟩
      · rw [failed, Prod.mk.injEq, Prod.mk.injEq] at updated
        obtain ⟨⟨rfl, rfl⟩, rfl⟩ := updated
        exact ⟨current.of_marked rfl rfl mark, nofun⟩
      · rw [played, Prod.mk.injEq, Prod.mk.injEq] at updated
        obtain ⟨⟨rfl, rfl⟩, rfl⟩ := updated
        exact ⟨⟨mode.trans current.live, file.trans current.computes, Or.inr plays⟩, fun _ => plays⟩
    · rw [if_neg mark, Prod.mk.injEq, Prod.mk.injEq] at updated
      obtain ⟨⟨rfl, rfl⟩, rfl⟩ := updated
      exact ⟨current, fun _ => current.plays.resolve_left mark⟩

lemma preserves_update (p : Device) : Within Preserves update p :=
  fun _ current => (update_current current rfl).1

lemma preserves_nextPhase (set : p.marked = true ∨ p.nextStep.touched = true ∨ p.phasePulses = 0) :
    Within Preserves nextPhase p := by
  intro b current
  have checked : perform checkPhases p b = ((.ok (), p), b) := by
    rw [checkPhases, perform_get_bind, current.live]
    rfl
  rw [nextPhase, perform_bind, checked, proceed_ok]
  refine (Within.bind ?_ fun _ => preserves_update) b current
  exact (minds_takePhase set).mono fun _ _ => Minds.preserves

lemma preserves_reset (cycle : Value) (b : Bench) (safe : p.marked = true ∨ (answer (reset cycle) p b).isOk = true) :
    Preserves (p, b) ((perform (reset cycle) p b).1.2, (perform (reset cycle) p b).2) := by
  intro current
  rw [answer] at safe
  rw [perform_reset_live current.live] at safe ⊢
  rcases rate : period p.rate with e | time
  · exact current
  · rw [rate] at safe
    dsimp only at safe ⊢
    rw [perform_bind] at safe ⊢
    have kept := minds_restartCount cycle p.returned b
    have frame := ends_restartCount cycle p.returned (b := b)
    rcases counted : perform (restartCount cycle) p.returned b with ⟨⟨e | ⟨⟩, s⟩, c⟩
    · rw [counted] at kept safe
      have mark : p.marked = true := safe.resolve_right Bool.false_ne_true
      exact current.of_marked (kept.mode) (kept.fromFile) (kept.marks mark)
    · obtain ⟨rfl, u, rfl⟩ := frame counted
      rw [counted, proceed_ok] at safe
      rw [proceed_ok]
      rcases play_cases (p := { p.returned with updates := u }) rate current.computes settles_settleReset true c with
        ⟨e, w, c, failed⟩ | ⟨r, q, c, played, mode, file, plays⟩
      · rw [failed] at safe ⊢
        have mark : p.marked = true := safe.resolve_right Bool.false_ne_true
        exact current.of_marked rfl rfl mark
      · rw [played]
        exact ⟨mode.trans current.live, file.trans current.computes, Or.inr plays⟩

/-! ### Other commands -/

lemma minds_state (p : Device) : Within Minds (do
    if (← get).mode == .rehearsal then return .nothing
    let _ ← Board.begin
    Board.status : Act Device Value) p := by
  refine .get_bind ?_
  split
  · exact .pure _
  · exact (minds_work unheard_begin p).bind fun _ => minds_work unheard_status

lemma useFile_cases (flag file : Value) (p : Device) (b : Bench) :
    (perform (useFile flag file) p b).1.2.fromFile = true ∨
      perform (useFile flag file) p b = ((.ok (), { p with fromFile := false }), b) ∨
      ∃ r, perform (useFile flag file) p b = ((r, p), b) := by
  unfold useFile
  rw [perform_get_bind, perform_bind, perform_lift]
  rcases flag.equals 1 with e | _ | _
  · exact .inr (Or.inr ⟨_, rfl⟩)
  · rw [proceed_ok, if_neg Bool.false_ne_true, perform_bind, perform_lift]
    rcases flag.equals 0 with e | _ | _
    · exact .inr (Or.inr ⟨_, rfl⟩)
    · exact .inr (Or.inr ⟨_, rfl⟩)
    · exact .inr (Or.inl rfl)
  · rw [proceed_ok, if_pos rfl, perform_modify_bind]
    refine .inl ?_
    by_cases live : (p.mode == .live) = true
    · rw [if_pos live]
      cases file with
      | text name =>
        dsimp only
        rw [perform_bind, perform_work]
        rcases carry (Bench.readFile name) b with ⟨e | text, c⟩
        · rfl
        · rfl
      | _ => rfl
    · rw [if_neg live]
      rfl

def Abides (x y : Device × Bench) : Prop :=
  x.1.mode = .live → x.1.fromFile = false → y.1.mode = .live → y.1.fromFile = false → Minds x y

lemma Minds.abides {x y : Device × Bench} (minds : Minds x y) : Abides x y := fun _ _ _ _ => minds

lemma abides_useFile (flag file : Value) (p : Device) : Within Abides (silent (useFile flag file)) p := by
  refine within_silent fun b _ computes _ computes' => ?_
  rcases useFile_cases flag file p b with reads | done | ⟨r, done⟩
  · exact absurd (reads.symm.trans computes') (by decide)
  · rw [done]
    exact .of_alike (Alike.of_pulses rfl rfl rfl rfl) rfl rfl computes.symm rfl rfl
  · rw [done]
    exact Std.Refl.refl (r := Minds) _

lemma abides_other {c : Command Device} (member : c ∈ declaring ++ playing)
    (other : (Call.meanings.lookup c.name).isSome = false) (safe : p.marked = true ∨ c.name ≠ "pulser_stop") (g : Given) :
    Within Abides (c.run g) p := by
  have minds {x : Act Device Value} (within : Within Minds x p) : Within Abides x p := within.mono fun _ _ => .abides
  simp only [declaring, playing, cons_append, nil_append, mem_cons, not_mem_nil, or_false] at member
  repeat' rcases member with rfl | member
  all_goals first
    | exact absurd other (by decide)
    | skip
  · exact minds (Within.pure _)
  · exact minds (within_silent (Within.modify fun _ => .of_marked rfl rfl rfl))
  · dsimp only [Command.unary]
    split
    · intro b live _ live' _
      exact .of_alike (Alike.of_pulses rfl rfl rfl rfl) (live'.trans live.symm) rfl rfl rfl rfl
    · exact minds (Within.throw _)
  · exact minds (Within.get_bind (Within.pure _))
  · refine minds (within_silent (Within.modify fun _ => ?_))
    exact .of_alike (Alike.of_pulses rfl rfl rfl rfl) rfl rfl rfl rfl rfl
  · refine minds fun b => Holds.minds (Within.get_bind (R := Holds) ?_ b) (safe.resolve_right fun h => h rfl)
    split
    · exact (holds_work _ p).bind fun _ _ => .pure _
    · exact .pure _
  · exact minds (minds_state p)
  · exact minds (within_silent (minds_visualize p))
  · refine minds (Within.get_bind ?_)
    split
    · exact .lift _
    · exact .lift _
    · exact .throw _
  · dsimp only
    split
    · exact abides_useFile _ _ p
    · exact minds (Within.throw _)

end Device

/-! ### Calls -/

open Device

variable {p : Device} {b : Bench}

namespace Call

def Rash (p : Device) (failed : Bool) : Call → Prop
  | declare _ => True
  | nextPhase => p.nextStep.touched = false ∧ p.phasePulses ≠ 0
  | shift [] | increment [] | reset _ => failed = true
  | _ => False

instance (p : Device) (failed : Bool) : (call : Call) → Decidable (call.Rash p failed)
  | declare _ => inferInstanceAs (Decidable True)
  | nextPhase => inferInstanceAs (Decidable (p.nextStep.touched = false ∧ p.phasePulses ≠ 0))
  | shift [] | increment [] | reset _ => inferInstanceAs (Decidable (failed = true))
  | redefine .. | askRate | setRate _ | update | shift (_ :: _) | increment (_ :: _) | restore .. =>
    inferInstanceAs (Decidable False)

lemma ends_moveAll_marked (m : Move) {flag : Device → Device} (marks : Marks flag) (p : Device) :
    Ends (fun _ s => s.marked = true) (moveAll m flag) p := by
  refine .get_bind ?_
  generalize m.all p.mode {} p.pulses = made
  obtain ⟨pulses, fault⟩ := made
  refine (Ends.modify (Q := fun _ _ => True) trivial).bind fun _ s _ => ?_
  cases fault with
  | some f => exact .throw f
  | none => exact .modify (marks.marked _)

lemma preserves_moveAll (m : Move) {flag : Device → Device} (marks : Marks flag) {x : Act Device Unit}
    (same : perform x p b = perform (moveAll m flag) p b) (safe : p.marked = true ∨ (answer x p b).isOk = true) :
    Preserves (p, b) ((perform x p b).1.2, (perform x p b).2) := by
  rw [answer, same, ← answer] at safe
  rw [same]
  have holds := holds_moveAll m marks p b
  rcases safe with mark | done
  · exact (holds.minds mark).preserves
  · obtain ⟨⟨⟩, answered⟩ := Outcome.exists_of_isOk done
    have moved := (ends_moveAll_marked m marks p (perform_of_answer answered)).2
    exact Minds.preserves (.of_marked holds.mode holds.fromFile moved)

lemma perform_shiftAll (p : Device) (b : Bench) :
    perform (shift []).act p b = perform (moveAll .shift fun p => { p with shifted := true }) p b := by
  rw [act, movePulses, isEmpty_nil, if_pos rfl]

lemma perform_incrementAll (p : Device) (b : Bench) : perform (increment []).act p b =
      perform (moveAll (.increment p.config) fun p => { p with incremented := true }) p b := by
  rw [act, perform_get_bind, movePulses, isEmpty_nil, if_pos rfl]

lemma preserves (call : Call) (b : Bench) (safe : p.marked = true ∨ ¬ call.Rash p !(answer call.act p b).isOk) :
    Preserves (p, b) ((perform call.act p b).1.2, (perform call.act p b).2) := by
  have minds (minds : Within Minds call.act p) : Preserves (p, b) ((perform call.act p b).1.2, (perform call.act p b).2) :=
    (minds b).preserves
  have succeeds {failed : Bool} (safe : p.marked = true ∨ ¬ (!failed) = true) : p.marked = true ∨ failed = true :=
    safe.imp_right fun ok => by simpa using ok
  cases call with
  | declare r => exact ((holds_addPulse r p b).minds (safe.resolve_right fun h => h trivial)).preserves
  | redefine t name value => exact minds (minds_redefine t name value p)
  | askRate => exact minds (Within.pure _)
  | setRate rate => exact minds (Within.modify fun _ => .of_marked rfl rfl (by simp [marked]))
  | update => exact preserves_update p b
  | nextPhase =>
    refine preserves_nextPhase (safe.imp_right fun steady => ?_) b
    by_contra rash
    simp only [not_or, Bool.not_eq_true] at rash
    exact steady rash
  | shift names =>
    cases names with
    | nil => exact preserves_moveAll .shift marks_shifted (perform_shiftAll p b) (succeeds safe)
    | cons name names => exact minds (minds_movePulses .shift marks_shifted (cons_ne_nil name names) p)
  | increment names =>
    cases names with
    | nil => exact preserves_moveAll _ marks_incremented (perform_incrementAll p b) (succeeds safe)
    | cons name names =>
      refine minds (Within.get_bind ?_)
      exact minds_movePulses (.increment p.config) marks_incremented (cons_ne_nil name names) p
  | reset cycle => exact preserves_reset cycle b (succeeds safe)
  | restore names cycle => exact minds (minds_restore names cycle p)

end Call

end EprBench.Pulser
