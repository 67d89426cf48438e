import EprBench.Proofs.Pulser.Leniency
import EprBench.Proofs.Pulser.Steps

/-! What a live session does when it plays: which program it takes, what it tells the board and in which state it leaves
the device. -/
namespace EprBench.Pulser.Device

open Outcome

variable {p q : Device} {b c : Bench} {t : Int} {is : List Instruction} {time : Option Int}

/-! ### The program -/

lemma perform_prepare_own {rows : List Row} (prepared : answer (prepare p.properties) p b = .ok rows) (c : Bench) :
    perform (prepare p.properties) p c = ((.ok rows, { p with windowed := p.windowedAfter p.properties }), c) := by
  obtain ⟨given, converted⟩ := converted_of_prepare prepared
  have placed := placed_of_converted converted
  have flag : ∀ w, rowsOf p.config p.mode w p.properties = (.ok given, w || p.properties.any Properties.windowed) :=
    fun w => rowsOf_eq_ok.mpr ⟨placed, rfl⟩
  rw [prepare_own converted] at prepared
  rw [perform_prepare (flag _), flag]
  refine congrArg₂ Prod.mk (congrArg₂ Prod.mk prepared ?_) rfl
  rw [Bool.or_assoc, Bool.or_self]
  rfl

lemma perform_programFor_own (made : p.programOf p.properties t = .ok (some is)) (c : Bench) :
    perform (programFor p.properties t) p c = ((.ok is, { p with windowed := p.windowedAfter p.properties }), c) := by
  obtain ⟨rows, prepared, program⟩ := bind_eq_ok.mp made
  have same : ({ p with windowed := p.windowedAfter p.properties } : Device).sequence.program t rows = .ok (some is) :=
    program
  rw [programFor, perform_bind, perform_prepare_own prepared, proceed_ok, perform_get_bind,
    perform_bind, perform_lift, same]
  rfl

lemma perform_currentProgram (computes : p.fromFile = false) (t : Int) (c : Bench) :
    perform (currentProgram (some t)) p c = perform (programFor p.properties t) p c := by
  rw [currentProgram, perform_get_bind, computes]
  rfl

lemma perform_currentProgram_recorded (reads : p.fromFile = true) (time : Option Int) (c : Bench) :
    perform (currentProgram time) p c = ((p.recordedProgram, p), c) := by
  rw [currentProgram, perform_get_bind, reads]
  rfl

lemma programOf_congr (alike : Alike q p) (mode : q.mode = p.mode)
    {made : Option (List Instruction)} (computed : p.programOf p.properties t = .ok made) :
    q.programOf q.properties t = .ok made := by
  obtain ⟨rows, prepared, program⟩ := bind_eq_ok.mp computed
  obtain ⟨given, converted⟩ := converted_of_prepare prepared
  rw [prepare_own converted, Device.sequence] at prepared
  rw [Device.sequence] at program
  rw [programOf, prepare_own (alike.rows converted), alike.windows, Device.sequence, alike.config, mode, alike.phases,
    prepared, ok_bind]
  exact program

def program (p : Device) : Outcome (Option (List Instruction)) := do
  match ← period p.rate with
  | some t => p.programOf p.properties t
  | none => throw .notAssigned

lemma program_eq (rate : period p.rate = .ok (some t)) : p.program = p.programOf p.properties t := by
  rw [program, rate]
  rfl

lemma concat_of_programOf {ps : List Properties}
    (made : p.programOf ps t = .ok (some is)) : ∃ front last, is = front ++ [last] := by
  obtain ⟨rows, -, program⟩ := bind_eq_ok.mp made
  obtain ⟨-, front, -, closed⟩ := Sequence.program_eq_ok program
  obtain ⟨ended, -, -, rfl⟩ := Sequence.close_eq_some closed
  exact ⟨front, _, rfl⟩

/-! ### Playing it -/

lemma perform_countUpdate {n : Int} (counted : p.updates = some n) (c : Bench) :
    perform countUpdate p c = ((.ok (), { p with updates := some (n + 1) }), c) := by
  rw [countUpdate, perform_get_bind, counted]
  rfl

lemma perform_play_current (current : perform (currentProgram time) p c = ((.ok is, q), c)) (toZero : Bool)
    (settle : Device → Device) : perform (play toZero settle time) p c =
      match carry (Board.play p.config.clock toZero is) c with
      | (.error e, c') => ((.error e, q), c')
      | (.ok _, c') => perform countUpdate (settle q) c' := by
  rw [play, perform_get_bind, perform_bind, current, proceed_ok, perform_bind, perform_work]
  rcases carry (Board.play p.config.clock toZero is) c with ⟨e | ⟨⟩, c'⟩
  · rfl
  · rfl

lemma perform_play (current : perform (currentProgram time) p c = ((.ok is, q), c)) (toZero : Bool)
    {settle : Device → Device} {n : Int} (counted : (settle q).updates = some n) :
    perform (play toZero settle time) p c = match carry (Board.play p.config.clock toZero is) c with
      | (.error e, c') => ((.error e, q), c')
      | (.ok _, c') => ((.ok (), { settle q with updates := some (n + 1) }), c') := by
  rw [perform_play_current current]
  split
  · rfl
  · exact perform_countUpdate counted _

lemma perform_play_fault {c' : Bench} {e : Fault}
    (current : perform (currentProgram time) p c = ((.error e, q), c')) (toZero : Bool) (settle : Device → Device) :
    perform (play toZero settle time) p c = ((.error e, q), c') := by
  rw [play, perform_get_bind, perform_bind, current, proceed_error]

/-! ### Updating and going back -/

lemma perform_update_live (live : p.mode = .live) (c : Bench) : perform update p c = match period p.rate with
      | .error e => ((.error e, p), c)
      | .ok time => if p.marked then perform (play false settle time) p c else ((.ok (), p), c) := by
  rw [update, perform_get_bind, perform_bind, perform_lift]
  rcases period p.rate with e | time
  · rfl
  · rw [proceed_ok, live]
    simp only
    have marks : (!p.settled || p.shifted || p.incremented || p.rated) = p.marked := rfl
    rw [marks]
    split
    · rfl
    · rfl

def returned (p : Device) : Device := { p with pulses := p.declared }

lemma perform_reset_live (live : p.mode = .live) (cycle : Value) (c : Bench) : perform (reset cycle) p c =
      match period p.rate with
      | .error e => ((.error e, p), c)
      | .ok time =>
        perform (restartCount cycle >>= fun _ => play true settleReset time) p.returned c := by
  rw [reset, perform_get_bind, perform_bind, perform_lift]
  rcases period p.rate with e | time
  · rfl
  · rw [proceed_ok, live]
    rfl

/-! ### In a rehearsal -/

lemma perform_rehearse (made : p.programOf p.properties t = .ok (some is))
    (durations : ∀ i ∈ is, 10 ≤ i.duration) (b : Bench) : perform (rehearse t) p b =
      perform (record is >>= fun _ => modify settle) { p with windowed := p.windowedAfter p.properties } b := by
  have checked : ensure (!is.any (·.duration < 10))
      "Incorrect instruction are found. Probably Trigger pulses are overlap with other" = .ok () := by
    simpa using durations
  obtain ⟨r, b₁, recorded⟩ := perform_record is { p with windowed := p.windowedAfter p.properties } b
  rw [rehearse, perform_get_bind, perform_bind, perform_programFor_own made, proceed_ok, perform_bind,
    perform_bind, recorded]
  rcases r with e | ⟨⟩
  · rfl
  · rw [proceed_ok, perform_bind, perform_lift, checked]

lemma perform_update_waiting (rehearsal : p.mode = .rehearsal) (waits : p.waiting = true)
    (rate : period p.rate = .ok (some t)) (b : Bench) : perform update p b = perform (rehearse t) p b := by
  rw [update, perform_get_bind, perform_bind, perform_lift, rate, proceed_ok, rehearsal]
  exact congrArg (perform · p b) (if_pos waits)

lemma perform_update_idle (rehearsal : p.mode = .rehearsal) (idle : p.waiting = false)
    (rate : period p.rate = .ok (some t)) (b : Bench) : perform update p b = ((.ok (), p), b) := by
  rw [update, perform_get_bind, perform_bind, perform_lift, rate, proceed_ok, rehearsal]
  exact congrArg (perform · p b) (if_neg (Bool.eq_false_iff.mp idle))

lemma windowed_of_update {p' : Device} {b' : Bench} (rehearsal : p.mode = .rehearsal) (waits : p.waiting = true)
    (rate : period p.rate = .ok (some t))
    (made : p.programOf p.properties t = .ok (some is)) (durations : ∀ i ∈ is, 10 ≤ i.duration)
    (done : perform update p b = ((.ok (), p'), b')) : p' = p.upToDate (p.windowedAfter p.properties) := by
  rw [perform_update_waiting rehearsal waits rate, perform_rehearse made durations] at done
  obtain ⟨⟨⟩, p₁, b₁, recorded, settled⟩ := perform_bind_ok.mp done
  obtain ⟨r, b₂, kept⟩ := perform_record is { p with windowed := p.windowedAfter p.properties } b
  rw [kept, Prod.mk.injEq, Prod.mk.injEq] at recorded
  rw [← recorded.1.2, perform_modify, Prod.mk.injEq, Prod.mk.injEq] at settled
  exact settled.1.2.symm

lemma reset_rehearsed {p' : Device} {cycle : Value} {b' : Bench} (rehearsal : p.mode = .rehearsal)
    (done : perform (reset cycle) p b = ((.ok (), p'), b')) :
    ∃ t is, period p.rate = .ok (some t) ∧ p.returned.programOf p.returned.properties t = .ok (some is) ∧
      p' = settleReset { p.returned with windowed := p.returned.windowedAfter p.returned.properties } ∧ b' = b := by
  rw [reset, perform_get_bind, perform_bind, perform_lift] at done
  rcases rate : period p.rate with e | _ | t
  · rw [rate, proceed_error] at done
    simp at done
  · rw [rate, proceed_ok, rehearsal] at done
    simp at done
  · rw [rate, proceed_ok, rehearsal] at done
    simp only at done
    rw [perform_modify_bind, perform_bind, ← returned] at done
    have own : p.declared.map Properties.ofPulse = p.returned.properties := rfl
    rw [own] at done
    obtain ⟨w, computed⟩ := perform_programFor p.returned.properties t p.returned
    rcases program : p.returned.programOf p.returned.properties t with e | _ | is
    · rw [computed, program] at done
      simp at done
    · have mode : ({ p.returned with windowed := w } : Device).mode = .rehearsal := rehearsal
      rw [computed, program, perform_refuseLong mode, proceed_error] at done
      simp at done
    · rw [perform_programFor_own program, proceed_ok, perform_modify, Prod.mk.injEq, Prod.mk.injEq] at done
      exact ⟨t, is, rfl, program, done.1.2.symm, done.2.symm⟩

end EprBench.Pulser.Device
