import EprBench.Proofs.Pulser.Current

/-! Whole live sessions. After every update that succeeds the board plays the program of the current pulses at the current
rate, as long as nothing rash was done while there was no change to be noticed. -/
namespace EprBench.Pulser

open Device List

variable {p : Device} {b : Bench} {r : Request}

/-- A request for one of the commands that declare and play pulses. -/
def Offered (r : Request) : Prop := r.name ∈ (declaring ++ playing).map Command.name

instance (r : Request) : Decidable (Offered r) := inferInstanceAs (Decidable (r.name ∈ (declaring ++ playing).map Command.name))

lemma exists_offered (offered : Offered r) : ∃ c ∈ declaring ++ playing, Call.commandOf r = some c ∧ c.name = r.name := by
  obtain ⟨c, member, name⟩ := mem_map.mp offered
  have known : ((declaring ++ playing).find? (·.name == r.name)).isSome = true :=
    find?_isSome.mpr ⟨c, member, beq_iff_eq.mpr name⟩
  obtain ⟨c, found⟩ := Option.isSome_iff_exists.mp known
  have same : c.name = r.name := by simpa using find?_some found
  refine ⟨c, mem_of_find?_eq_some found, ?_, same⟩
  have all : programmer.commands = declaring ++ playing ++ (rowSteps ++ wordSteps ++ pulseSteps) := by
    simp only [programmer, append_assoc]
  rw [Call.commandOf, all, find?_append, found]
  rfl

/-! ### One request -/

/-- The session stays live and computes its programs, and nothing rash is done while there is no change to be noticed. -/
structure CarefulStep (r : Request) (p : Device) (b : Bench) : Prop where
  live : (perform (carryOut r) p b).1.2.mode = .live
  computes : (perform (carryOut r) p b).1.2.fromFile = false
  safe : p.marked = true ∨
    r.name ≠ "pulser_stop" ∧ ∀ call, Call.ofRequest r = .ok call → ¬ call.Rash p !(answer (carryOut r) p b).isOk

instance (r : Request) (p : Device) (b : Bench) : Decidable (CarefulStep r p b) :=
  decidable_of_iff ((perform (carryOut r) p b).1.2.mode = .live ∧ (perform (carryOut r) p b).1.2.fromFile = false ∧
    (p.marked = true ∨
      r.name ≠ "pulser_stop" ∧ ∀ call, Call.ofRequest r = .ok call → ¬ call.Rash p !(answer (carryOut r) p b).isOk))
    ⟨fun h => ⟨h.1, h.2.1, h.2.2⟩, fun h => ⟨h.live, h.computes, h.safe⟩⟩

lemma current_of_understood (understood : Call.Understood r) (current : Current p b) (careful : CarefulStep r p b) :
    Current (perform (carryOut r) p b).1.2 (perform (carryOut r) p b).2 := by
  have safe := careful.safe
  rw [answer] at safe
  rw [Call.perform_carryOut understood] at safe ⊢
  rcases made : Call.ofRequest r with e | call
  · exact current
  · rw [made] at safe
    exact call.preserves b (safe.imp_right fun steady => steady.2 call rfl) current

lemma current_of_other (offered : Offered r) (other : ¬ Call.Understood r) (current : Current p b)
    (careful : CarefulStep r p b) : Current (perform (carryOut r) p b).1.2 (perform (carryOut r) p b).2 := by
  obtain ⟨c, member, command, name⟩ := exists_offered offered
  have unknown : (Call.meanings.lookup c.name).isSome = false := by
    rw [name]
    exact Bool.eq_false_iff.mpr other
  have carried : carryOut r = c.call r >>= fun _ => pure () := by
    rw [carryOut, command]
  have abides : Within Abides (carryOut r) p := by
    rw [carried, Command.call]
    refine .bind_pure _ fun b => ?_
    rw [perform_bind, perform_lift]
    rcases c.matched r.values r.named with e | g
    · exact (Std.Refl.refl _ : Minds (p, b) (p, b)).abides
    · exact abides_other member unknown (careful.safe.imp_right fun steady => name ▸ steady.1) g b
  exact (abides b current.live current.computes careful.live careful.computes).preserves current

/-! ### Whole sessions -/

def after : List Request → Device → Bench → Device × Bench
  | [], p, b => (p, b)
  | r :: rs, p, b => after rs (perform (carryOut r) p b).1.2 (perform (carryOut r) p b).2

/-- Every request of the session is careful. -/
def Careful : List Request → Device → Bench → Prop
  | [], _, _ => True
  | r :: rs, p, b => CarefulStep r p b ∧ Careful rs (perform (carryOut r) p b).1.2 (perform (carryOut r) p b).2

def decideCareful : (rs : List Request) → (p : Device) → (b : Bench) → Decidable (Careful rs p b)
  | [], _, _ => isTrue trivial
  | r :: rs, p, b =>
    have := decideCareful rs (perform (carryOut r) p b).1.2 (perform (carryOut r) p b).2
    inferInstanceAs (Decidable (CarefulStep r p b ∧ _))

instance (rs : List Request) (p : Device) (b : Bench) : Decidable (Careful rs p b) := decideCareful rs p b

lemma current_after {rs : List Request} (offered : ∀ r ∈ rs, Offered r) (careful : Careful rs p b) (current : Current p b) :
    Current (after rs p b).1 (after rs p b).2 := by
  induction rs generalizing p b with
  | nil => exact current
  | cons r rs ih =>
    obtain ⟨here, later⟩ := forall_mem_cons.mp offered
    refine ih later careful.2 ?_
    by_cases understood : Call.Understood r
    · exact current_of_understood understood current careful.1
    · exact current_of_other here understood current careful.1

/-- In a careful live session the board plays the program of the current pulses at the current rate after every update that
succeeds: it has taken in just that program and was started with it. -/
theorem updated_board_plays_current_program (config : Config) (b : Bench) {rs : List Request}
    (offered : ∀ r ∈ rs, Offered r) (careful : Careful rs (make config .live) b) {q : Device} {b' : Bench}
    (updated : perform (carryOut { name := "pulser_update" }) (after rs (make config .live) b).1
      (after rs (make config .live) b).2 = ((.ok (), q), b')) : q.Plays b' := by
  have fresh : Current (make config .live) b := ⟨rfl, rfl, Or.inl rfl⟩
  have understood : Call.Understood { name := "pulser_update" } := by decide
  have call : Call.ofRequest { name := "pulser_update" } = .ok .update := rfl
  rw [Call.perform_carryOut understood, call] at updated
  exact (update_current (current_after offered careful fresh) updated).2 rfl

/-- A session in which pulses are declared, given phases, moved, redefined and taken back. A request fails, and the board is
stopped while there is a change to be noticed. -/
def tuning : List Request := [
  declares "P0" "TRIGGER" "0 ns" "100 ns",
  declares "P1" "MW" "300 ns" "20 ns" [("delta_start", "10 ns"), ("phase_list", .list ["+x", "-x"])],
  { name := "pulser_next_phase" },
  { name := "pulser_shift" },
  { name := "pulser_stop" },
  { name := "pulser_update" },
  { name := "pulser_next_phase" },
  { name := "pulser_redefine_start", named := [("name", "P1")] },
  { name := "pulser_pulse_reset" },
  { name := "pulser_repetition_rate", values := ["1 kHz"] }]

theorem tuned_board_plays_current_program : Careful tuning (make .factory .live) {} ∧
      answer (carryOut { name := "pulser_update" }) (after tuning (make .factory .live) {}).1
        (after tuning (make .factory .live) {}).2 = .ok () ∧
      Plays (perform (carryOut { name := "pulser_update" }) (after tuning (make .factory .live) {}).1
          (after tuning (make .factory .live) {}).2).1.2
        (perform (carryOut { name := "pulser_update" }) (after tuning (make .factory .live) {}).1
          (after tuning (make .factory .live) {}).2).2 := by
  have careful : Careful tuning (make .factory .live) {} := by decide +kernel
  have succeeds : answer (carryOut { name := "pulser_update" }) (after tuning (make .factory .live) {}).1
      (after tuning (make .factory .live) {}).2 = .ok () := by decide +kernel
  refine ⟨careful, succeeds, ?_⟩
  exact updated_board_plays_current_program .factory {} (by decide +kernel) careful (perform_of_answer succeeds)

/-- A pulse is declared after the board has been brought up to date. -/
def adding : List Request := [
  declares "P0" "TRIGGER" "0 ns" "100 ns",
  { name := "pulser_update" },
  declares "P1" "TRIGGER" "300 ns" "100 ns"]

/-- The next update has nothing to notice, and the board goes on with the program of the first pulse alone. -/
theorem late_pulse_is_not_played :
    answer (carryOut { name := "pulser_update" }) (after adding (make .factory .live) {}).1
        (after adding (make .factory .live) {}).2 = .ok () ∧
      ¬ Plays (perform (carryOut { name := "pulser_update" }) (after adding (make .factory .live) {}).1
          (after adding (make .factory .live) {}).2).1.2
        (perform (carryOut { name := "pulser_update" }) (after adding (make .factory .live) {}).1
          (after adding (make .factory .live) {}).2).2 := by
  refine ⟨by decide +kernel, fun ⟨is, made, plays⟩ => ?_⟩
  have heard : (Board.memory (perform (carryOut { name := "pulser_update" }) (after adding (make .factory .live) {}).1
      (after adding (make .factory .live) {}).2).2).taken.length = 3 := by decide +kernel
  have length : ((perform (carryOut { name := "pulser_update" }) (after adding (make .factory .live) {}).1
      (after adding (make .factory .live) {}).2).1.2.program.map
        fun made => made.elim 0 fun is => (Board.telling is).length) = .ok 5 := by decide +kernel
  rw [made] at length
  rw [plays] at heard
  exact absurd (heard.symm.trans (Except.ok.inj length)) (by decide)

end EprBench.Pulser
