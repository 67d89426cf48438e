import EprBench.Proofs.Pulser.Tidy
import EprBench.Proofs.Pulser.Times

/-! What a reset brings back: the last copy, which holds the pulses as they were declared only if none of them was
moved before. -/
namespace EprBench.Pulser

open Device List

variable {ps : List Pulse} {p p' : Device} {b b' : Bench} {r : Request}

/-! ### The copy -/

lemma declared_call {call : Call} (done : perform call.act p b = ((.ok (), p'), b')) :
    p'.declared = match call with | .declare q => p.pulses ++ [q] | _ => p.declared := by
  have follows := follows_call done
  cases call with
  | declare q =>
    obtain ⟨n, rfl⟩ := follows
    rfl
  | nextPhase => exact follows.2.declared
  | _ => exact follows.declared

def copiedBy (p : Device) (r : Request) : List Pulse :=
  if r.name = "pulser_clear" then []
  else
    match Call.ofRequest r with
    | .ok (.declare q) => p.pulses ++ [q]
    | _ => p.declared

lemma declared_request (offered : Offered r) (done : perform (carryOut r) p b = ((.ok (), p'), b')) :
    p'.declared = copiedBy p r := by
  by_cases understood : Call.Understood r
  · obtain ⟨call, meant, same⟩ := Call.exists_call understood done
    rw [same] at done
    have kept : r.name ≠ "pulser_clear" := by
      intro name
      rw [Call.Understood, name] at understood
      exact absurd understood (by decide)
    rw [declared_call done, copiedBy, if_neg kept, meant]
    cases call <;> rfl
  · obtain ⟨books, named⟩ | ⟨rfl, named⟩ := books_request offered understood done
    · rw [copiedBy, if_neg named, ofRequest_other understood]
      exact books.follows.declared
    · rw [copiedBy, if_pos named]
      rfl

/-! ### Resets -/

lemma perform_restore (p : Device) (b : Bench) :
    ∃ p', perform (carryOut { name := "pulser_pulse_reset" }) p b = ((.ok (), p'), b) ∧ p'.pulses = p.declared := by
  have understood : Call.Understood { name := "pulser_pulse_reset" } := by decide
  have meant : Call.ofRequest { name := "pulser_pulse_reset" } = .ok (.restore [] (.text "False")) := rfl
  rw [Call.perform_carryOut understood, meant]
  dsimp only
  rw [Call.act, restore, perform_get_bind, if_pos (isEmpty_nil), perform_modify_bind]
  cases p.mode with
  | live =>
    rw [if_pos (by rfl), restartCount, perform_bind, perform_lift, equals_text]
    exact ⟨_, rfl, rfl⟩
  | rehearsal => exact ⟨_, rfl, rfl⟩

/-- All pulses are taken back to `ps`, by both commands that do so. Playing them may fail after that. -/
structure BringsBack (ps : List Pulse) (p : Device) : Prop where
  restore : ∀ b, ∃ p' b', perform (carryOut { name := "pulser_pulse_reset" }) p b = ((.ok (), p'), b') ∧ p'.pulses = ps
  reset : ∀ b p' b', perform (carryOut { name := "pulser_reset" }) p b = ((.ok (), p'), b') → p'.pulses = ps
  failing : ∀ b, p.ReadsRate → (perform (carryOut { name := "pulser_reset" }) p b).1.2.pulses = ps

lemma bringsBack_iff : BringsBack ps p ↔ p.declared = ps := by
  constructor
  · intro back
    obtain ⟨p', b', done, pulses⟩ := back.restore {}
    obtain ⟨p₁, done', declared⟩ := perform_restore p {}
    obtain ⟨⟨-, rfl⟩, -⟩ : (Except.ok () = Except.ok () ∧ p' = p₁) ∧ b' = {} := by
      rw [done, Prod.mk.injEq, Prod.mk.injEq] at done'
      exact done'
    exact declared.symm.trans pulses
  · rintro rfl
    have meant : Call.ofRequest { name := "pulser_reset" } = .ok (.reset (.text "False")) := rfl
    have carried (b : Bench) : perform (carryOut { name := "pulser_reset" }) p b =
        perform (Device.reset (.text "False")) p b := by
      rw [Call.perform_carryOut (by decide), meant]
      rfl
    refine ⟨fun b => ?_, fun b p' b' done => ?_, fun b reads => ?_⟩
    · obtain ⟨p', done, pulses⟩ := perform_restore p b
      exact ⟨p', b, done, pulses⟩
    · rw [carried] at done
      have kept := sameBooks_reset (readsRate_of_reset done) (.text "False") b
      rw [done] at kept
      exact kept.1
    · rw [carried]
      exact (sameBooks_reset reads _ b).1

/-! ### Whole sessions -/

/-- Each pulse is declared while the pulses that are held are just those that have been declared, as they were. -/
def InPlace : List Pulse → List Request → Device → Bench → Prop
  | _, [], _, _ => True
  | ps, r :: rs, p, b => (∀ q, Call.ofRequest r = .ok (.declare q) → p.pulses = ps) ∧
      InPlace (declaredBy ps r) rs (perform (carryOut r) p b).1.2 (perform (carryOut r) p b).2

lemma copiedBy_eq_iff (declared : p.declared = ps) :
    copiedBy p r = declaredBy ps r ↔ ∀ q, Call.ofRequest r = .ok (.declare q) → p.pulses = ps := by
  rw [copiedBy, declaredBy]
  split
  · rename_i cleared
    have other : ¬ Call.Understood r := by
      rw [Call.Understood, cleared]
      decide
    simp [ofRequest_other other]
  · rcases Call.ofRequest r with e | call
    · exact ⟨fun _ _ never => (by cases never), fun _ => declared⟩
    · cases call with
      | declare q =>
        dsimp only
        rw [append_left_inj]
        exact ⟨fun same _ _ => same, fun same => same q rfl⟩
      | _ => exact ⟨fun _ _ never => (by cases never), fun _ => declared⟩

lemma declared_script_iff {rs : List Request} (offered : ∀ r ∈ rs, Offered r) (declared : p.declared = ps)
    (done : perform (script rs) p b = ((.ok (), p'), b')) :
    (∀ n, (perform (script (rs.take n)) p b).1.2.declared = (rs.take n).foldl declaredBy ps) ↔ InPlace ps rs p b := by
  induction rs generalizing ps p b with
  | nil => simpa [InPlace, script_nil] using declared
  | cons r rs ih =>
    obtain ⟨here, later⟩ := forall_mem_cons.mp offered
    rw [script_cons] at done
    obtain ⟨⟨⟩, s, c, first, rest⟩ := perform_bind_ok.mp done
    have copied : s.declared = copiedBy p r := declared_request here first
    have onward (n : Nat) : perform (script ((r :: rs).take (n + 1))) p b = perform (script (rs.take n)) s c := by
      rw [take_succ_cons, script_cons, perform_bind, first, proceed_ok]
    rw [InPlace, ← copiedBy_eq_iff declared, ← copied, first]
    constructor
    · intro all
      have next : s.declared = declaredBy ps r := by
        have one := all 1
        rwa [onward, take_zero, script_nil, take_succ_cons, take_zero] at one
      refine ⟨next, (ih later next rest).mp fun n => ?_⟩
      have one := all (n + 1)
      rwa [onward, take_succ_cons, foldl_cons] at one
    · rintro ⟨next, place⟩ n
      cases n with
      | zero => exact declared
      | succ n =>
        rw [onward, take_succ_cons, foldl_cons]
        exact (ih later next rest).mpr place n

/-! ### Declaring at rest -/

def Call.restAfter (rest : Bool) : Call → Bool
  | .declare _ | .reset _ => true
  | .restore names _ => names.isEmpty
  | .askRate | .setRate _ | .update => rest
  | .redefine .. | .nextPhase | .shift _ | .increment _ => false

def declaresAtRest : Bool → List Request → Bool
  | _, [] => true
  | rest, r :: rs =>
    match Call.ofRequest r with
    | .ok (.declare _) => rest && declaresAtRest true rs
    | .ok call => declaresAtRest (call.restAfter rest) rs
    | .error _ => declaresAtRest rest rs

lemma pulses_call {call : Call} {rest : Bool} (held : rest = true → p.pulses = p.declared) (rests : call.restAfter rest = true)
    (done : perform call.act p b = ((.ok (), p'), b')) : p'.pulses = p'.declared := by
  have quiet {x : Act Device Unit} (same : Within SameBooks x p) (before : rest = true)
      (ran : perform x p b = ((.ok (), p'), b')) : p'.pulses = p'.declared := by
    have kept := same b
    rw [ran] at kept
    exact (kept.1.trans (held before)).trans kept.follows.declared.symm
  cases call with
  | declare q =>
    obtain ⟨-, n, -, rfl⟩ := ends_addPulse q p done
    rfl
  | askRate => exact quiet (Within.pure _) rests done
  | setRate rate => exact quiet (Within.modify fun _ => ⟨rfl, rfl⟩) rests done
  | update => exact quiet (sameBooks_update.within p) rests done
  | reset cycle =>
    have kept := sameBooks_reset (readsRate_of_reset done) cycle b
    rw [show perform (Device.reset cycle) p b = _ from done] at kept
    exact kept.1.trans kept.follows.declared.symm
  | restore names cycle =>
    obtain rfl := List.isEmpty_iff.mp rests
    exact (ends_restoreAll cycle p done).2.2
  | redefine | nextPhase | shift | increment => cases rests

lemma inPlace_of_rest {rs : List Request} (rest : Bool) (offered : ∀ r ∈ rs, Offered r) (declared : p.declared = ps)
    (held : rest = true → p.pulses = p.declared) (atRest : declaresAtRest rest rs = true)
    (done : perform (script rs) p b = ((.ok (), p'), b')) : InPlace ps rs p b := by
  induction rs generalizing ps p b rest with
  | nil => trivial
  | cons r rs ih =>
    obtain ⟨here, later⟩ := forall_mem_cons.mp offered
    rw [script_cons] at done
    obtain ⟨⟨⟩, s, c, first, onward⟩ := perform_bind_ok.mp done
    have place : ∀ q, Call.ofRequest r = .ok (.declare q) → p.pulses = ps := by
      intro q meant
      rw [declaresAtRest, meant] at atRest
      exact (held (Bool.and_eq_true_iff.mp atRest).1).trans declared
    refine ⟨place, ?_⟩
    rw [first]
    have copied : s.declared = declaredBy ps r := (declared_request here first).trans ((copiedBy_eq_iff declared).mpr place)
    by_cases understood : Call.Understood r
    · obtain ⟨call, meant, same⟩ := Call.exists_call understood first
      rw [same] at first
      have rests : declaresAtRest (call.restAfter rest) rs = true := by
        rw [declaresAtRest, meant] at atRest
        cases call with
        | declare q => exact (Bool.and_eq_true_iff.mp atRest).2
        | _ => exact atRest
      exact ih _ later copied (fun rest => pulses_call held rest first) rests onward
    · rw [declaresAtRest, ofRequest_other understood] at atRest
      refine ih rest later copied (fun rest => ?_) atRest onward
      obtain ⟨books, -⟩ | ⟨rfl, -⟩ := books_request here understood first
      · exact (books.1.trans (held rest)).trans books.follows.declared.symm
      · rfl

/-! ### Bringing back -/

/-- In a session that raises nothing, a reset brings back the pulses as they were declared at every moment, just if each of them
is declared while the ones before are held as they were declared. -/
theorem reset_brings_back_declared_iff (config : Config) (mode : Mode) (b : Bench) {rs : List Request}
    (offered : ∀ r ∈ rs, Offered r) {p : Device} {b' : Bench}
    (done : perform (script rs) (make config mode) b = ((.ok (), p), b')) :
    (∀ n, BringsBack (scriptPulses (rs.take n)) (perform (script (rs.take n)) (make config mode) b).1.2) ↔
      InPlace [] rs (make config mode) b := by
  simp only [bringsBack_iff]
  exact declared_script_iff offered rfl done

/-- A session in which pulses are moved and taken back before another one is declared. -/
def revised : List Request := [
  declares "P0" "MW" "300 ns" "20 ns" [("delta_start", "10 ns"), ("phase_list", .list ["-x", "+x"])],
  declares "P1" "TRIGGER" "600 ns" "100 ns" [("length_increment", "20 ns")],
  { name := "pulser_next_phase" },
  { name := "pulser_shift" },
  { name := "pulser_increment", values := ["P1"] },
  { name := "pulser_redefine_start", named := [("name", "P1"), ("start", "800 ns")] },
  { name := "pulser_pulse_reset" },
  declares "P2" "MW" "400 ns" "40 ns" [("delta_start", "20 ns"), ("phase_list", .list ["+x", "-y"])],
  { name := "pulser_next_phase" },
  { name := "pulser_shift", values := ["P0", "P2"] }]

lemma inPlace_revised :
    InPlace [] revised (make .factory .rehearsal) {} ∧ answer (script revised) (make .factory .rehearsal) {} = .ok () := by
  have succeeds : answer (script revised) (make .factory .rehearsal) {} = .ok () := by decide +kernel
  refine ⟨?_, succeeds⟩
  exact inPlace_of_rest true (by decide +kernel) rfl (fun _ => rfl) (by decide +kernel) (perform_of_answer succeeds)

theorem revision_is_brought_back :
    InPlace [] revised (make .factory .rehearsal) {} ∧ answer (script revised) (make .factory .rehearsal) {} = .ok () ∧
      ∀ n, BringsBack (scriptPulses (revised.take n)) (perform (script (revised.take n)) (make .factory .rehearsal) {}).1.2 := by
  obtain ⟨place, succeeds⟩ := inPlace_revised
  refine ⟨place, succeeds, ?_⟩
  exact (reset_brings_back_declared_iff .factory .rehearsal {} (by decide +kernel) (perform_of_answer succeeds)).mpr place

/-- A pulse is declared after another one was moved. -/
def movedBefore : List Request := [
  declares "P0" "MW" "300 ns" "20 ns" [("delta_start", "10 ns")],
  { name := "pulser_shift" },
  declares "P1" "TRIGGER" "600 ns" "100 ns",
  { name := "pulser_pulse_reset" }]

/-- The reset leaves the first pulse where it was moved to. -/
theorem moved_start_is_brought_back : answer (script movedBefore) (make .factory .rehearsal) {} = .ok () ∧
      (scriptPulses movedBefore).map (fun q => (q.name.display, q.start.display)) = [("P0", "300 ns"), ("P1", "600 ns")] ∧
      (perform (script movedBefore) (make .factory .rehearsal) {}).1.2.pulses.map
          (fun q => (q.name.display, q.start.display)) = [("P0", "310 ns"), ("P1", "600 ns")] := by
  decide +kernel

/-! ### Moves that go astray -/

/-- A tenth of a microsecond, to be made longer. -/
def tenth : Pulse := ⟨"P0", "TRIGGER", "100 ns", "0.1 us", "0 ns", "10 ns", .list []⟩

/-- A pulse of 100 ns is accepted, and an increment by 10 ns makes it one of 10 ns. -/
theorem tenth_gets_shorter :
    nanoseconds ℚ tenth.length = .ok 100 ∧ answer (addPulse tenth) (make .factory .rehearsal) {} = .ok () ∧
      answer (do addPulse tenth; Call.act (.increment [])) (make .factory .rehearsal) {} = .ok () ∧
      (perform (do addPulse tenth; Call.act (.increment [])) (make .factory .rehearsal) {}).1.2.pulses.map
        (·.length.display) = ["10 ns"] := by
  decide +kernel

end EprBench.Pulser
