import EprBench.Proofs.Waveform.Undoing

/-! The phase cycle of a waveform generator. Main statement: a step of the cycle starts from the phases that the pulses were
declared with, whatever shifts came before. -/
namespace EprBench.Waveform

open Value List Outcome

namespace Generator

/-! ### Runs -/

/-- What a script does with pulses: it declares them and turns them. -/
inductive Call where
  | pulse (p : Pulse)
  | update
  | shift (names : List Value)
  | nextPhase

namespace Call

def act : Call → Act Generator Unit
  | pulse p => addPulse p
  | update => Generator.update
  | shift names => Generator.shift names
  | nextPhase => Generator.nextPhase

def pulse? : Call → Option Pulse
  | pulse p => some p
  | _ => none

def declares : Call → Bool
  | pulse _ | update => true
  | _ => false

def turns : Call → Bool
  | pulse _ => false
  | _ => true

end Call

/-- Generator and bench after calls one after another, whether they succeed or not. -/
def reached (cs : List Call) (u : Generator × Bench) : Generator × Bench :=
  cs.foldl (fun u c => ((perform c.act u.1 u.2).1.2, (perform c.act u.1 u.2).2)) u

/-! ### Declaring -/

/-- Pulses as they were declared, played one by one. -/
structure Fresh (m : Mode) (ds : List Pulse) (g : Generator) : Prop where
  mode : g.mode = m
  joined : g.joined = false
  pulses : g.pulses = ds
  declared : g.declared = ds

section

variable {m : Mode} {g h : Generator} {ds : List Pulse} {p : Pulse} {s : Ground}

lemma Fresh.of_outline (fresh : Fresh m ds g) (same : outline h = outline g) : Fresh m ds h := by
  simp only [outline, Prod.mk.injEq] at same
  obtain ⟨mode, -, declared, joined, pulses⟩ := same
  exact ⟨mode.trans fresh.mode, joined.trans fresh.joined, pulses.trans fresh.pulses, declared.trans fresh.declared⟩

lemma Fresh.declare (fresh : Fresh m ds g) :
    Fresh m (ds ++ [p]) { g with pulses := g.pulses ++ [p], declared := g.pulses ++ [p] } :=
  ⟨fresh.mode, fresh.joined, congrArg (· ++ [p]) fresh.pulses, congrArg (· ++ [p]) fresh.pulses⟩

def Grown (m : Mode) (ds : List Pulse) (p : Pulse) (g : Generator) : Prop :=
  Fresh m (ds ++ [p]) g ∨ m = .rehearsal ∧ Fresh m ds g

lemma Grown.of_outline (grown : Grown m ds p g) (same : outline h = outline g) : Grown m ds p h :=
  grown.imp (·.of_outline same) fun old => ⟨old.1, old.2.of_outline same⟩

lemma grown_addPulse (p : Pulse) (fresh : Fresh m ds g) : Ensures (Grown m ds p) (fun _ => Grown m ds p) (addPulse p) g := by
  have noted {Q : Generator → Prop} {x : Act Generator Unit} [notes : Obeys Outlines x] {g : Generator} (grown : Grown m ds p g)
      (holds : ∀ h, outline h = outline g → Q h) : Ensures (Grown m ds p) (fun _ => Q) x g :=
    .of_within (notes.within g) (fun _ _ _ same => grown.of_outline same) fun _ _ h _ same => holds h same
  refine .get_bind ?_
  rw [fresh.mode]
  cases m with
  | live =>
    have declared : Fresh .live (ds ++ [p])
        { g with pulses := g.pulses ++ [p], declared := g.pulses ++ [p], names := g.names ++ [p.name] } :=
      { fresh.declare with }
    refine .modify_bind (.modify_bind ((noted (.inl declared) fun h same => declared.of_outline same).bind fun _ h new => ?_))
    exact noted (.inl new) fun h' same => .inl (new.of_outline same)
  | rehearsal =>
    have old {h : Generator} (fresh : Fresh .rehearsal ds h) : Grown .rehearsal ds p h := .inr ⟨rfl, fresh⟩
    refine (noted (old fresh) fun h same => fresh.of_outline same).bind fun _ h fresh => ?_
    refine .ite (fun _ => .throw _ (old fresh)) fun _ => .lift_bind (old fresh) fun _ _ => .modify_bind ?_
    have fresh : Fresh .rehearsal ds { h with names := h.names ++ [p.name] } := { fresh with }
    refine .lift_bind (old fresh) fun _ _ => (noted (old fresh) fun h same => fresh.of_outline same).bind fun _ h fresh => ?_
    exact .lift_bind (old fresh) fun _ _ => .modify (.inl fresh.declare) (.inl fresh.declare)

lemma fresh_reached {cs : List Call} (declaring : ∀ c ∈ cs, c.declares = true) (fresh : Fresh m ds g) (b : Bench) :
    ∃ ds', Fresh m (ds ++ ds') (reached cs (g, b)).1 ∧ ds'.Sublist (cs.filterMap Call.pulse?) ∧
      (m = .live → ds' = cs.filterMap Call.pulse?) := by
  induction cs generalizing g ds b with
  | nil => exact ⟨[], by rwa [append_nil], .refl _, fun _ => rfl⟩
  | cons c cs ih =>
    obtain ⟨here, later⟩ := forall_mem_cons.mp declaring
    cases c with
    | shift | nextPhase => cases here
    | update =>
      have same : outline (perform update g b).1.2 = outline g := outlines_update.within g b
      exact ih later (fresh.of_outline same) _
    | pulse p =>
      rcases (grown_addPulse p fresh b).1 with new | ⟨rfl, old⟩
      · obtain ⟨ds', all, listed, live⟩ := ih later new _
        rw [append_assoc] at all
        exact ⟨p :: ds', all, listed.cons_cons p, fun playing => congrArg (p :: ·) (live playing)⟩
      · obtain ⟨ds', all, listed, -⟩ := ih later old _
        exact ⟨ds', all, listed.cons p, nofun⟩

/-! ### Turning -/

abbrev stand (names : List Value) (ds : List Pulse) : Ground := ⟨names, ds, false, fun d p => { p with phase := d.phase } = d⟩

lemma moved_reached {names : List Value} {cs : List Call} (turning : ∀ c ∈ cs, c.turns = true)
    (moved : Moved (stand names ds) g) (b : Bench) : Moved (stand names ds) (reached cs (g, b)).1 := by
  have shifts : Moves (stand names ds) shiftPhase := fun d t like =>
    .get_bind (.lift_bind like fun _ _ => .ite (fun _ => like) fun _ => .lift_bind like fun _ _ =>
      .lift_bind like fun _ _ => like)
  induction cs generalizing g b with
  | nil => exact moved
  | cons c cs ih =>
    obtain ⟨here, later⟩ := forall_mem_cons.mp turning
    refine ih later ?_ _
    cases c with
    | pulse => cases here
    | update => exact (movesOn_update moved b).1
    | shift names => exact (movesOn_shift shifts names moved b).1
    | nextPhase => exact (movesOn_nextPhase (fun _ _ _ like => like) moved b).1

/-! ### A step of the cycle -/

def StepsTo (m : Mode) (index : ℕ) (declared : Value) (p q : Pulse) : Prop :=
  cyclePhase m index p declared = .ok none ∧ q = p ∨
    ∃ phase, cyclePhase m index p declared = .ok (some phase) ∧ q = { p with phase := phase }

def turnPhase (m : Mode) (index : ℕ) (ds : List Pulse) : Pulse × ℕ → Act Generator PUnit := fun (p, i) => do
  let declared := ((ds[i]?).map (·.phase)).getD .nothing
  match ← cyclePhase m index p declared with
  | none => return
  | some phase => modify fun g => { g with pulses := g.pulses.set i { p with phase := phase }, settled := false }

lemma ensures_turns (m : Mode) (index : ℕ) (g : Generator) (dsBefore before : List Pulse) {ds ps : List Pulse}
    (lengths : dsBefore.length = before.length) (long : ds.length = ps.length) (here : g.pulses = before ++ ps) :
    Ensures (fun _ => True)
      (fun _ h => ∃ qs, h.pulses = before ++ qs ∧ Forall₂ (fun u q => StepsTo m index u.1.phase u.2 q) (ds.zip ps) qs)
      ((ps.zipIdx before.length).forM (turnPhase m index (dsBefore ++ ds))) g := by
  induction ps generalizing g ds dsBefore before with
  | nil => exact .pure trivial ⟨[], here, by simp⟩
  | cons p ps ih =>
    obtain ⟨d, ds, rfl⟩ := exists_of_length_succ ds long
    have place : (dsBefore ++ d :: ds)[before.length]? = some d := by simp [← lengths]
    rw [zipIdx_cons]
    refine .bind (Q := fun _ h => ∃ q, h.pulses = before ++ q :: ps ∧ StepsTo m index d.phase p q) ?_
      fun _ h ⟨q, there, steps⟩ => ?_
    · rw [turnPhase, place]
      refine .lift_bind trivial fun found stepped => ?_
      cases found with
      | none => exact .pure trivial ⟨p, here, .inl ⟨stepped, rfl⟩⟩
      | some phase =>
        refine .modify trivial ⟨{ p with phase := phase }, ?_, .inr ⟨phase, stepped, rfl⟩⟩
        simp [here]
    · have later := ih h (dsBefore ++ [d]) (before ++ [q]) (by simp [lengths])
        (Nat.succ.inj long) (by rw [there, append_cons])
      rw [← append_cons, length_append] at later
      refine later.mono fun _ k ⟨qs, made, each⟩ => ⟨q :: qs, ?_, .cons steps each⟩
      rw [made, ← append_cons]

lemma ensures_nextPhase (moved : Moved s g) :
    Ensures (fun _ => True) (fun _ h => Forall₂ (fun u q => StepsTo g.mode g.phaseIndex u.1.phase u.2 q)
      (s.pulses.zip g.pulses) h.pulses) nextPhase g := by
  have turns := ensures_turns g.mode g.phaseIndex g [] [] rfl moved.pulses.length_eq rfl
  have all : Ensures (fun _ => True) (fun _ h => Forall₂ (fun u q => StepsTo g.mode g.phaseIndex u.1.phase u.2 q)
      (s.pulses.zip g.pulses) h.pulses) (do
      g.pulses.zipIdx.forM (turnPhase g.mode g.phaseIndex g.declared)
      modify fun g => { g with phaseIndex := g.phaseIndex + 1 }
      update) g := by
    rw [moved.declared]
    refine turns.bind fun _ h ⟨qs, made, each⟩ => .modify_bind (.of_within (outlines_update.within _) (fun _ _ _ _ => trivial) ?_)
    intro _ _ k _ same
    have pulses : k.pulses = h.pulses := congrArg (·.2.2.2.2) same
    rwa [pulses, made]
  exact .get_bind (.ite (fun _ => .lift_bind trivial fun _ _ => .lift_bind trivial fun _ _ => all) fun _ => all)

/-- The phase in a step of the cycle. -/
def Quarter (declared phase : Value) : String → Prop
  | "+x" => phase = declared
  | "+y" => declared.plus (.float (3.141592653589793 / 2)) = .ok phase
  | "-x" => declared.plus (.float 3.141592653589793) = .ok phase
  | "-y" => declared.plus (.float (3 * 3.141592653589793 / 2)) = .ok phase
  | _ => True

lemma quarter_of_turned {declared phase : Value} {step : String}
    (turns : ∀ angle, phaseAngles.lookup step = some angle → turned declared angle = .ok phase) :
    Quarter declared phase step := by
  unfold Quarter
  split
  · exact (Except.ok.inj (turns 0 rfl)).symm
  · exact turns _ rfl
  · exact turns _ rfl
  · exact turns _ rfl
  · trivial

lemma StepsTo.quarter {d q : Pulse} {index : ℕ} (steps : StepsTo m index d.phase p q) (like : { p with phase := d.phase } = d)
    {names : List Value} {step : String} (listed : d.phases = .list names ∨ d.phases = .tuple names)
    (named : names[index]? = some (.text step)) : Quarter d.phase q.phase step := by
  refine quarter_of_turned fun angle known => ?_
  have phases : p.phases = d.phases := (congrArg (·.phases) like :)
  obtain ⟨items, chosen⟩ : p.phases.items = .ok names ∧ p.phases.nth index = .ok (.text step) := by
    rw [phases]
    rcases listed with listed | listed <;> rw [listed] <;> exact ⟨rfl, pick_eq_ok.mpr named⟩
  have listing : names.isEmpty = false := by cases names <;> simp_all
  have stepped : cyclePhase m index p d.phase = (do return some (← turned d.phase angle)) := by
    rw [cyclePhase, items, ok_bind, listing, if_neg Bool.false_ne_true, chosen, ok_bind, choice_text, known]
    rfl
  rcases steps with ⟨still, -⟩ | ⟨phase, set, rfl⟩
  · rw [stepped, bind_eq_ok] at still
    obtain ⟨_, -, still⟩ := still
    cases still
  · rw [stepped, bind_eq_ok] at set
    obtain ⟨_, made, set⟩ := set
    rwa [Option.some.inj (pure_eq_ok.mp set)] at made

lemma forall₂_of_zip {R : Pulse → Pulse → Prop} {S : Pulse × Pulse → Pulse → Prop} {ds ps qs : List Pulse}
    (first : Forall₂ R ds ps) (second : Forall₂ S (ds.zip ps) qs) :
    Forall₂ (fun d q => ∃ p, R d p ∧ S (d, p) q) ds qs := by
  induction first generalizing qs with
  | nil => simpa using second
  | cons here _ ih =>
    obtain ⟨q, qs, there, later, rfl⟩ := forall₂_cons_left_iff.mp second
    exact .cons ⟨_, here, there⟩ (ih later)

/-- After a step of the cycle the phase of a pulse is the declared one and the angle of that step, whatever shifts and steps
came since it was declared. -/
theorem next_phase_starts_from_declared (fresh : Fresh m [] g) (b : Bench) (first later : List Call)
    (declaring : ∀ c ∈ first, c.declares = true) (turning : ∀ c ∈ later, c.turns = true) {h : Generator} {b' : Bench}
    (done : perform nextPhase (reached later (reached first (g, b))).1 (reached later (reached first (g, b))).2 =
      ((.ok (), h), b')) : let ds := (reached first (g, b)).1.pulses
    let index := (reached later (reached first (g, b))).1.phaseIndex
    ds.Sublist (first.filterMap Call.pulse?) ∧ (m = .live → ds = first.filterMap Call.pulse?) ∧
      Forall₂ (fun d p => { p with phase := d.phase } = d ∧ ∀ names step,
        d.phases = .list names ∨ d.phases = .tuple names → names[index]? = some (.text step) → Quarter d.phase p.phase step)
        ds h.pulses := by
  intro ds index
  obtain ⟨ds', start, listed, live⟩ := fresh_reached declaring fresh b
  rw [nil_append] at start
  obtain rfl : ds = ds' := start.pulses
  have moved : Moved (stand (reached first (g, b)).1.names ds) (reached first (g, b)).1 :=
    ⟨rfl, start.declared, start.joined, forall₂_same.mpr fun _ _ => rfl⟩
  have there := moved_reached turning moved (reached first (g, b)).2
  have stepped := (ensures_nextPhase there (reached later (reached first (g, b))).2).2 () (congrArg (·.1.1) done)
  rw [done] at stepped
  refine ⟨listed, live, (forall₂_of_zip there.pulses stepped).imp fun d q ⟨p, like, steps⟩ => ⟨?_, fun names step => ?_⟩⟩
  · rcases steps with ⟨-, rfl⟩ | ⟨phase, -, rfl⟩ <;> exact like
  · exact fun phases named => steps.quarter like phases named

end

/-- A silent pulse whose phase is shifted and goes through a cycle of two steps. -/
def turning : Pulse :=
  { walker with function := .text "BLANK", phase := .int 0, deltaPhase := .float 0.5, phases := .list ["+x", "-x"] }

def rehearsing : Generator where
  limits := ⟨1900, 0, 280, 0, 0⟩
  mode := .rehearsal
  rehearsed := true
  channel := 1
  amplitude1 := 533

/-- Shifted and turned once. -/
def halfway : Generator × Bench := reached [.shift [], .nextPhase] (reached [.pulse turning] (rehearsing, {}))

theorem second_step_starts_from_declared : Fresh .rehearsal [] rehearsing ∧
      ∃ h b' p, perform nextPhase halfway.1 halfway.2 = ((.ok (), h), b') ∧ h.pulses = [p] ∧ Quarter (.int 0) p.phase "-x" := by
  have fresh : Fresh .rehearsal [] rehearsing := ⟨rfl, rfl, rfl, rfl⟩
  have declared : (reached [.pulse turning] (rehearsing, {})).1.pulses.length = 1 := by decide +kernel
  have index : halfway.1.phaseIndex = 1 := by decide +kernel
  have answered : (answer nextPhase halfway.1 halfway.2).isOk = true := by decide +kernel
  obtain ⟨⟨⟩, answered⟩ := exists_of_isOk answered
  have done := perform_of_answer answered
  obtain ⟨listed, -, all⟩ := next_phase_starts_from_declared fresh {} [.pulse turning] [.shift [], .nextPhase]
    (by decide) (by decide) done
  rw [listed.eq_of_length declared] at all
  obtain ⟨p, _, ⟨-, step⟩, none, pulses⟩ := forall₂_cons_left_iff.mp all
  rw [forall₂_nil_left_iff.mp none] at pulses
  exact ⟨fresh, _, _, p, done, pulses, step _ "-x" (.inl rfl) (congrArg _ index)⟩

/-- A shift is dropped by the next step of the cycle. -/
theorem shift_is_dropped :
    (reached [.pulse turning, .shift []] (rehearsing, {})).1.pulses.map (·.phase.display) = ["0.5"] ∧
      (reached [.pulse turning, .shift [], .nextPhase] (rehearsing, {})).1.pulses.map (·.phase.display) = ["0"] := by
  decide +kernel

end Generator
end EprBench.Waveform
