import EprBench.Proofs.Pulser.PhasePulses

/-! Whole sessions that keep their books in order. In a tidy one the names stay with their pulses, and every phase is
set by just the pulses that it asks for. -/
namespace EprBench.Pulser

open Device List

variable {ps : List Pulse} {p p' : Device} {b b' : Bench} {r : Request}

/-! ### One request -/

/-- A call that keeps the books in order. -/
def Call.Tidy (p : Device) : Call → Prop
  | declare _ => p.pulses.length = p.names.length
  | nextPhase => p.PhasesApart
  | _ => True

instance (p : Device) : (call : Call) → Decidable (call.Tidy p)
  | .declare _ => inferInstanceAs (Decidable (p.pulses.length = p.names.length))
  | .nextPhase => inferInstanceAs (Decidable p.PhasesApart)
  | .redefine .. | .askRate | .setRate _ | .update | .shift _ | .increment _ | .reset _ | .restore .. =>
    inferInstanceAs (Decidable True)

/-- The pulses that have been declared after a request more. -/
def declaredBy (ps : List Pulse) (r : Request) : List Pulse :=
  if r.name = "pulser_clear" then []
  else
    match Call.ofRequest r with
    | .ok (.declare q) => ps ++ [q]
    | _ => ps

/-- The pulses that the requests of a script declare. -/
def scriptPulses (rs : List Request) : List Pulse := rs.foldl declaredBy []

lemma Device.Booked.map_name (booked : Booked ps p) : p.own.map Pulse.name = p.names := by
  have names : ∀ qs : List Pulse, qs.map Pulse.name = (qs.map Pulse.tag).map Prod.fst := fun qs => by
    rw [map_map]
    rfl
  rw [names, booked.own, ← names, booked.names]

lemma Device.Booked.holdingAlso (booked : Booked ps p) (tidy : p.pulses.length = p.names.length) (q : Pulse)
    (phases : List Nat) : Booked (ps ++ [q]) (p.holdingAlso q phases) := by
  have own : p.own = p.pulses := take_of_length_le tidy.le
  have length : (p.pulses ++ [q]).length = (p.names ++ [q.name]).length := by simp [tidy]
  have all : (p.holdingAlso q phases).own = p.pulses ++ [q] := take_of_length_le length.le
  have none : (p.holdingAlso q phases).made = [] := drop_eq_nil_of_le length.le
  have tags : (p.pulses ++ [q]).map Pulse.tag = (ps ++ [q]).map Pulse.tag := by
    rw [map_append, map_append, ← own, booked.own]
  refine ⟨?_, tags, all ▸ tags, by simp [none], Or.inl none⟩
  rw [Device.holdingAlso, map_append, booked.names]
  rfl

lemma booked_fresh (pulses : p.pulses = []) (declared : p.declared = []) (names : p.names = []) : Booked [] p := by
  have own : p.own = [] := by rw [Device.own, pulses, take_nil]
  have made : p.made = [] := by rw [Device.made, pulses, drop_nil]
  exact ⟨names, by rw [declared], by rw [own], by simp [made], Or.inl made⟩

lemma follows_call {call : Call} (done : perform call.act p b = ((.ok (), p'), b')) : match call with
    | .declare q => ∃ n, p' = p.holdingAlso q n
    | .nextPhase => p.nextStep.fault = none ∧ Follows p.withPhase p'
    | _ => Follows p p' := by
  have updated (q : Device) {c : Bench} (ran : perform update q c = ((.ok (), p'), b')) : Follows q p' := by
    have kept := sameBooks_update.within q c
    rw [ran] at kept
    exact kept.follows
  cases call with
  | update => exact updated p done
  | nextPhase =>
    obtain ⟨-, -, fine, played⟩ := nextPhase_cases done
    exact ⟨fine, updated _ played⟩
  | reset cycle => exact reset_follows done
  | declare q =>
    obtain ⟨-, n, -, made⟩ := ends_addPulse q p done
    exact ⟨n, made⟩
  | _ =>
    obtain ⟨-, steps | ⟨r, n, same, -⟩⟩ := Call.ends (by trivial) p done
    · exact steps.toFollows
    · cases same

lemma booked_call {call : Call} (tidy : call.Tidy p) (booked : Booked ps p)
    (done : perform call.act p b = ((.ok (), p'), b')) :
    Booked (match call with | .declare q => ps ++ [q] | _ => ps) p' := by
  have follows := follows_call done
  cases call with
  | declare q =>
    obtain ⟨n, rfl⟩ := follows
    exact booked.holdingAlso tidy q n
  | nextPhase => exact (booked.withPhase tidy follows.1).follows follows.2
  | _ => exact booked.follows follows

lemma books_other {c : Command Device} (member : c ∈ declaring ++ playing)
    (other : (Call.meanings.lookup c.name).isSome = false) (g : Given) (p : Device) :
    Within (fun u v => SameBooks u v ∧ c.name ≠ "pulser_clear" ∨ v.1 = u.1.cleared ∧ c.name = "pulser_clear") (c.run g) p := by
  have same {x : Act Device Value} (within : Within SameBooks x p) (name : c.name ≠ "pulser_clear") :
      Within (fun u v => SameBooks u v ∧ c.name ≠ "pulser_clear" ∨ v.1 = u.1.cleared ∧ c.name = "pulser_clear") x p :=
    within.mono fun _ _ books => Or.inl ⟨books, name⟩
  simp only [declaring, playing, cons_append, nil_append, mem_cons, not_mem_nil, or_false] at member
  repeat' rcases member with rfl | member
  all_goals first
    | exact absurd other (by decide)
    | skip
  · exact same (Within.pure _) (by decide)
  · exact within_silent (Within.modify fun _ => Or.inr ⟨rfl, rfl⟩)
  · refine same ?_ (by decide)
    dsimp only [Command.unary]
    split
    · exact within_silent (Within.modify fun _ => ⟨rfl, rfl⟩)
    · exact .throw _
  · exact same (Within.get_bind (Within.pure _)) (by decide)
  · exact same (within_silent (Within.modify fun _ => ⟨rfl, rfl⟩)) (by decide)
  · refine same (Within.get_bind ?_) (by decide)
    split
    · exact Obeys.within p
    · exact .pure _
  · refine same (Within.get_bind ?_) (by decide)
    split
    · exact .pure _
    · exact Obeys.within p
  · exact same (within_silent (Obeys.within p)) (by decide)
  · refine same (Within.get_bind ?_) (by decide)
    split
    · exact .lift _
    · exact .lift _
    · exact .throw _
  · refine same ?_ (by decide)
    dsimp only
    split
    · exact within_silent (Obeys.within p)
    · exact .throw _

/-- A request that keeps the books in order. -/
def TidyStep (r : Request) (p : Device) : Prop := ∀ call, Call.ofRequest r = .ok call → call.Tidy p

instance (r : Request) (p : Device) : Decidable (TidyStep r p) :=
  inferInstanceAs (Decidable (∀ call, Call.ofRequest r = .ok call → call.Tidy p))

lemma booked_understood (understood : Call.Understood r) (tidy : TidyStep r p) (booked : Booked ps p)
    (done : perform (carryOut r) p b = ((.ok (), p'), b')) : Booked (declaredBy ps r) p' := by
  obtain ⟨call, meant, same⟩ := Call.exists_call understood done
  rw [same] at done
  have kept : r.name ≠ "pulser_clear" := by
    intro name
    rw [Call.Understood, name] at understood
    exact absurd understood (by decide)
  have booked' := booked_call (tidy call meant) booked done
  rw [declaredBy, if_neg kept, meant]
  cases call <;> exact booked'

lemma ofRequest_other (other : ¬ Call.Understood r) : Call.ofRequest r = .error .noMember := by
  have unknown : Call.meanings.lookup r.name = none := Option.not_isSome_iff_eq_none.mp other
  rw [Call.ofRequest, unknown]
  cases Call.commandOf r <;> rfl

lemma books_request (offered : Offered r) (other : ¬ Call.Understood r)
    (done : perform (carryOut r) p b = ((.ok (), p'), b')) :
    SameBooks (p, b) (p', b') ∧ r.name ≠ "pulser_clear" ∨ p' = p.cleared ∧ r.name = "pulser_clear" := by
  obtain ⟨c, member, command, name⟩ := exists_offered offered
  have unknown : Call.meanings.lookup r.name = none := Option.not_isSome_iff_eq_none.mp other
  rw [carryOut, command] at done
  obtain ⟨_, s, c', called, done⟩ := perform_bind_ok.mp done
  obtain ⟨rfl, rfl⟩ : s = p' ∧ c' = b' := by simpa using done
  obtain ⟨g, s₁, c₁, matched, ran⟩ := perform_bind_ok.mp called
  rw [perform_lift, Prod.mk.injEq, Prod.mk.injEq] at matched
  obtain ⟨⟨-, rfl⟩, rfl⟩ := matched
  have kept := books_other member (by rw [name, unknown]; rfl) g p b
  rw [ran, name] at kept
  exact kept

lemma booked_other (offered : Offered r) (other : ¬ Call.Understood r) (booked : Booked ps p)
    (done : perform (carryOut r) p b = ((.ok (), p'), b')) : Booked (declaredBy ps r) p' := by
  obtain ⟨books, named⟩ | ⟨rfl, named⟩ := books_request offered other done
  · rw [declaredBy, if_neg named, ofRequest_other other]
    exact booked.follows books.follows
  · rw [declaredBy, if_pos named]
    exact booked_fresh rfl rfl rfl

/-! ### Whole sessions -/

/-- Every request of the session keeps the books in order. -/
def Tidy : List Request → Device → Bench → Prop
  | [], _, _ => True
  | r :: rs, p, b => TidyStep r p ∧ Tidy rs (perform (carryOut r) p b).1.2 (perform (carryOut r) p b).2

def decideTidy : (rs : List Request) → (p : Device) → (b : Bench) → Decidable (Tidy rs p b)
  | [], _, _ => isTrue trivial
  | r :: rs, p, b =>
    have := decideTidy rs (perform (carryOut r) p b).1.2 (perform (carryOut r) p b).2
    inferInstanceAs (Decidable (TidyStep r p ∧ _))

instance (rs : List Request) (p : Device) (b : Bench) : Decidable (Tidy rs p b) := decideTidy rs p b

lemma booked_script {rs : List Request} (offered : ∀ r ∈ rs, Offered r) (tidy : Tidy rs p b) (booked : Booked ps p)
    (done : perform (script rs) p b = ((.ok (), p'), b')) : Booked (rs.foldl declaredBy ps) p' := by
  induction rs generalizing ps p b with
  | nil =>
    rw [script_nil, perform_pure, Prod.mk.injEq, Prod.mk.injEq] at done
    obtain ⟨⟨-, rfl⟩, -⟩ := done
    exact booked
  | cons r rs ih =>
    obtain ⟨here, later⟩ := forall_mem_cons.mp offered
    obtain ⟨tidyHere, tidyLater⟩ := tidy
    rw [script_cons] at done
    obtain ⟨⟨⟩, s, c, first, rest⟩ := perform_bind_ok.mp done
    rw [first] at tidyLater
    refine ih later tidyLater ?_ rest
    by_cases understood : Call.Understood r
    · exact booked_understood understood tidyHere booked first
    · exact booked_other here understood booked first

/-! ### Names -/

def ChangesOnly (name : Value) (R : Nat → Pulse → Pulse → Prop) (p p' : Device) : Prop :=
  (∀ q ∈ p.own, q.name.equals name = .ok false) ∧ p'.pulses = p.pulses ∨
    ∃ i q q', p.own[i]? = some q ∧ q.name.equals name = .ok true ∧ (∀ r ∈ p.own.take i, r.name.equals name = .ok false) ∧
      R i q q' ∧ p'.pulses = p.pulses.set i q'

lemma Device.ChangesNamed.only {name : Value} {R : Nat → Pulse → Pulse → Prop} (changes : ChangesNamed name R p p')
    (booked : Booked ps p) : ChangesOnly name R p p' := by
  rcases changes with ⟨none, same⟩ | ⟨i, w, q, q', named, equal, before, here, changed, set⟩
  · refine .inl ⟨fun q member => none q.name ?_, same⟩
    rw [← booked.map_name]
    exact mem_map_of_mem member
  · rw [← booked.map_name] at named before
    rw [getElem?_map, Option.map_eq_some_iff] at named
    obtain ⟨q₁, own, rfl⟩ := named
    have same : q₁ = q := by
      rw [Device.own, getElem?_take] at own
      split at own
      · exact Option.some.inj (own.symm.trans here)
      · simp at own
    subst same
    refine .inr ⟨i, q₁, q', own, equal, fun r member => before r.name ?_, changed, set⟩
    rw [← map_take]
    exact mem_map_of_mem member

/-- Each name is that of the pulse at its place, and giving a name to a shift, an increment or a reset changes the pulse of
that name and no other. -/
structure NamesFit (ps : List Pulse) (p : Device) : Prop where
  names : p.names = ps.map Pulse.name
  places : ∀ (i : Nat) (w : Value), p.names[i]? = some w → ∃ q : Pulse, p.pulses[i]? = some q ∧ q.name = w
  shift : ∀ name c p' c', perform (carryOut { name := "pulser_shift", values := [name] }) p c = ((.ok (), p'), c') →
    ChangesOnly name (fun _ q q' => ∃ seen, Move.shift.apply p.mode {} q = .ok (q', seen)) p p'
  increment : ∀ name c p' c', perform (carryOut { name := "pulser_increment", values := [name] }) p c = ((.ok (), p'), c') →
    ChangesOnly name (fun _ q q' => ∃ seen, (Move.increment p.config).apply p.mode {} q = .ok (q', seen)) p p'
  reset : ∀ name c p' c', perform (carryOut { name := "pulser_pulse_reset", values := [name] }) p c = ((.ok (), p'), c') →
    ChangesOnly name (Restored p.declared) p p'

lemma Device.Booked.namesFit (booked : Booked ps p) : NamesFit ps p := by
  refine ⟨booked.names, fun i w named => ?_, fun name c p' c' done => ?_, fun name c p' c' done => ?_,
    fun name c p' c' done => ?_⟩
  · rw [← booked.map_name, getElem?_map, Option.map_eq_some_iff] at named
    obtain ⟨q, own, rfl⟩ := named
    rw [Device.own, getElem?_take] at own
    split at own
    · exact ⟨q, own, rfl⟩
    · simp at own
  · have meant : Call.ofRequest { name := "pulser_shift", values := [name] } = .ok (.shift [name]) := rfl
    rw [Call.perform_carryOut (show Call.Understood { name := "pulser_shift", values := [name] } from rfl), meant] at done
    exact (ends_movePulses_named (fun _ _ => rfl) marks_shifted name p done).2.only booked
  · have meant : Call.ofRequest { name := "pulser_increment", values := [name] } = .ok (.increment [name]) := rfl
    rw [Call.perform_carryOut (show Call.Understood { name := "pulser_increment", values := [name] } from rfl), meant]
      at done
    dsimp only at done
    rw [Call.act, perform_get_bind] at done
    exact (ends_movePulses_named (fun _ _ => rfl) marks_incremented name p done).2.only booked
  · have meant : Call.ofRequest { name := "pulser_pulse_reset", values := [name] } = .ok (.restore [name] (.text "False")) := rfl
    rw [Call.perform_carryOut (show Call.Understood { name := "pulser_pulse_reset", values := [name] } from rfl), meant]
      at done
    exact (ends_restore_named name _ p done).2.only booked

/-- In a tidy session that raises nothing the names stay with their pulses. -/
theorem names_stay_with_pulses (config : Config) (mode : Mode) (b : Bench) {rs : List Request}
    (offered : ∀ r ∈ rs, Offered r) (tidy : Tidy rs (make config mode) b) {p : Device} {b' : Bench}
    (done : perform (script rs) (make config mode) b = ((.ok (), p), b')) : NamesFit (scriptPulses rs) p :=
  (booked_script offered tidy (booked_fresh rfl rfl rfl) done).namesFit

/-- A session in which pulses are cycled through their phases, moved, redefined and taken back. -/
def cycled : List Request := [
  declares "P0" "MW" "300 ns" "20 ns" [("delta_start", "10 ns"), ("phase_list", .list ["-x", "-y", "+x"])],
  declares "P1" "TRIGGER" "600 ns" "100 ns" [("length_increment", "20 ns")],
  { name := "pulser_next_phase" },
  { name := "pulser_shift", values := ["P0"] },
  { name := "pulser_next_phase" },
  { name := "pulser_increment" },
  { name := "pulser_redefine_start", named := [("name", "P1"), ("start", "800 ns")] },
  { name := "pulser_reset" },
  { name := "pulser_next_phase" },
  { name := "pulser_pulse_reset", values := ["P1"] }]

lemma tidy_cycled :
    Tidy cycled (make .factory .rehearsal) {} ∧ answer (script cycled) (make .factory .rehearsal) {} = .ok () := by
  decide +kernel

theorem names_stay_while_cycling :
    Tidy cycled (make .factory .rehearsal) {} ∧ answer (script cycled) (make .factory .rehearsal) {} = .ok () ∧
      NamesFit (scriptPulses cycled) (perform (script cycled) (make .factory .rehearsal) {}).1.2 := by
  obtain ⟨tidy, succeeds⟩ := tidy_cycled
  refine ⟨tidy, succeeds, ?_⟩
  exact names_stay_with_pulses .factory .rehearsal {} (by decide +kernel) tidy (perform_of_answer succeeds)

/-- A pulse is declared while the phase of another one is set, and is then to be moved. -/
def declaredLate : List Request := [
  declares "P0" "MW" "300 ns" "20 ns" [("phase_list", .list ["-x"])],
  { name := "pulser_next_phase" },
  declares "P1" "TRIGGER" "600 ns" "100 ns" [("delta_start", "10 ns")],
  { name := "pulser_shift", values := ["P1"] }]

/-- The second name has the place of the pulse that sets the phase, and the pulse that it names is not moved. -/
theorem late_name_is_out_of_place : answer (script declaredLate) (make .factory .rehearsal) {} = .ok () ∧
      (perform (script declaredLate) (make .factory .rehearsal) {}).1.2.names.map Value.display = ["P0", "P1"] ∧
      (perform (script declaredLate) (make .factory .rehearsal) {}).1.2.pulses.map
          (fun q => (q.name.display, q.start.display)) =
        [("P0", "300 ns"), ("P0_ph_seq-x", "270 ns"), ("P1", "600 ns")] := by
  decide +kernel

/-! ### Phases -/

/-- The pulses that set phases are just those that a script has declared itself and those that the phases of its pulses ask
for, and no pulse that it has declared is missing. -/
structure PhaseIsSet (ps : List Pulse) (c : Config) (index : Nat) (p : Device) : Prop where
  kept : p.own.map Pulse.tag = ps.map Pulse.tag
  asked : ∃ sets, Forall₂ (Sets c index) p.own sets ∧ p.pulses = p.own ++ sets.flatten ∧
    p.pulses.filter Pulse.isPhase = p.own.filter Pulse.isPhase ++ sets.flatten

lemma Device.Booked.phaseIsSet (booked : Booked ps p) (apart : p.PhasesApart)
    (done : perform nextPhase p b = ((.ok (), p'), b')) :
    PhaseIsSet ps p.config p.phaseIndex p' ∧ p'.own = p.own := by
  obtain ⟨-, -, fine, updated⟩ := nextPhase_cases done
  obtain ⟨sets, each, set, -⟩ := booked.pulses_withPhase apart fine
  have kept := sameBooks_update.within p.withPhase b
  rw [updated] at kept
  have pulses : p'.pulses = p.own ++ sets.flatten := kept.1.trans set
  have names : p'.names = p.names := congrArg (·.2.1) kept.2
  have own : p'.own = p.own := by
    rw [Device.own, pulses, names]
    exact List.take_left' booked.length_own
  refine ⟨⟨own ▸ booked.own, sets, own ▸ each, own ▸ pulses, ?_⟩, own⟩
  rw [pulses, own, filter_append, filter_eq_self.mpr (isPhase_of_mem_flatten each)]

/-- In a tidy session that raises nothing, each step of the phase cycle leaves just the pulses that are declared and those
that the current phases ask for; the declared pulses stay where they are. -/
theorem phase_is_set_by_its_pulses (config : Config) (mode : Mode) (b : Bench) {rs : List Request}
    (offered : ∀ r ∈ rs, Offered r) (tidy : Tidy rs (make config mode) b) {p : Device} {b' : Bench}
    (done : perform (script rs) (make config mode) b = ((.ok (), p), b')) (apart : p.PhasesApart) {p' : Device} {b'' : Bench}
    (stepped : perform (carryOut { name := "pulser_next_phase" }) p b' = ((.ok (), p'), b'')) :
    PhaseIsSet (scriptPulses rs) p.config p.phaseIndex p' ∧ p'.own = p.own := by
  have booked := booked_script offered tidy (booked_fresh rfl rfl rfl) done
  have meant : Call.ofRequest { name := "pulser_next_phase" } = .ok .nextPhase := rfl
  rw [Call.perform_carryOut (by decide), meant] at stepped
  exact booked.phaseIsSet apart stepped

theorem phase_is_set_while_cycling :
    Tidy cycled (make .factory .rehearsal) {} ∧ answer (script cycled) (make .factory .rehearsal) {} = .ok () ∧
      (perform (script cycled) (make .factory .rehearsal) {}).1.2.PhasesApart ∧
      answer (carryOut { name := "pulser_next_phase" }) (perform (script cycled) (make .factory .rehearsal) {}).1.2
        (perform (script cycled) (make .factory .rehearsal) {}).2 = .ok () ∧
      PhaseIsSet (scriptPulses cycled) (perform (script cycled) (make .factory .rehearsal) {}).1.2.config
        (perform (script cycled) (make .factory .rehearsal) {}).1.2.phaseIndex
        (perform (carryOut { name := "pulser_next_phase" }) (perform (script cycled) (make .factory .rehearsal) {}).1.2
          (perform (script cycled) (make .factory .rehearsal) {}).2).1.2 := by
  obtain ⟨tidy, succeeds⟩ := tidy_cycled
  obtain ⟨apart, steps⟩ : (perform (script cycled) (make .factory .rehearsal) {}).1.2.PhasesApart ∧
      answer (carryOut { name := "pulser_next_phase" }) (perform (script cycled) (make .factory .rehearsal) {}).1.2
        (perform (script cycled) (make .factory .rehearsal) {}).2 = .ok () := by decide +kernel
  refine ⟨tidy, succeeds, apart, steps, ?_⟩
  exact (phase_is_set_by_its_pulses .factory .rehearsal {} (by decide +kernel) tidy (perform_of_answer succeeds) apart
    (perform_of_answer steps)).1

/-- A script that sets a phase by a pulse of its own, beside a pulse with a phase cycle. -/
def phasesMixed : List Request := [
  declares "P0" "MW" "300 ns" "20 ns" [("phase_list", .list ["-x", "+x"])],
  declares "P1" "-X" "600 ns" "100 ns",
  { name := "pulser_next_phase" },
  { name := "pulser_next_phase" }]

/-- The second step takes out the declared pulse and leaves the one of the first step. -/
theorem declared_phase_is_lost : answer (script phasesMixed) (make .factory .rehearsal) {} = .ok () ∧
      (scriptPulses phasesMixed).map (fun q => q.name.display) = ["P0", "P1"] ∧
      (perform (script phasesMixed) (make .factory .rehearsal) {}).1.2.pulses.map (fun q => q.name.display) =
        ["P0", "P0_ph_seq-x"] := by
  decide +kernel

end EprBench.Pulser
