import EprBench.Proofs.Pulser.Twins

/-! What a rehearsal is good for. A script that has been rehearsed without a fault is played live without a sequence
that is too long and without an instruction that is too short, as long as the live session plays what has been
checked. -/
namespace EprBench.Pulser

open Board

/-- No sequence is too long for its period, and every instruction lasts ten nanoseconds or more. -/
structure Fair (e : Event) : Prop where
  fits : e ≠ .message Sequence.tooLong
  lasts : ∀ x, Sends x e → ∃ n, Decimal.truncate? x = some n ∧ 10 ≤ n

lemma fair_of_handles {e : Event} (handles : Handles e) : Fair e := by
  rcases handles with ⟨file, rfl⟩ | ⟨function, args, other, rfl⟩
  · refine ⟨by simp, ?_⟩
    rintro x ⟨flags, operation, operand, same⟩
    cases same
  · refine ⟨by simp, ?_⟩
    rintro x ⟨flags, operation, operand, same⟩
    cases same
    exact absurd rfl other

lemma fair_of_sends {i : Instruction} (fits : sendable i = true) (lasts : 10 ≤ i.duration) {e : Event}
    (sends : Sends (Decimal.ofInt i.duration) e) : Fair e := by
  obtain ⟨flags, operation, operand, rfl⟩ := sends
  refine ⟨by simp, ?_⟩
  rintro x ⟨_, _, _, same⟩
  cases same
  have real : Value.realOfInt i.duration = .ok (Decimal.ofInt i.duration) := if_pos fits
  obtain ⟨n, whole, order⟩ := Decimal.le_of_realOfInt (k := 10) real (by decide)
  exact ⟨n, whole, order.mpr lasts⟩

lemma fair_of_tells {is : List Instruction} (durations : ∀ i ∈ is, 10 ≤ i.duration) {e : Event}
    (tells : Tells (sent is) e) : Fair e := by
  rcases tells with handles | ⟨i, member, sends⟩
  · exact fair_of_handles handles
  · have here : i ∈ is := (List.takeWhile_prefix _).subset member
    exact fair_of_sends (List.mem_takeWhile_imp member) (durations i here) sends

namespace Device

/-! ### Programs that are played -/

lemma adds_play {p : Device} {ps : List Properties} {t : Int} {is : List Instruction}
    (made : p.programOf ps t = .ok (some is)) (durations : ∀ i ∈ is, 10 ≤ i.duration) (clock : Float) (toZero : Bool)
    (c : Bench) : Adds Fair c (carry (Board.play clock toZero is) c).2 := by
  obtain ⟨front, last, rfl⟩ := concat_of_programOf made
  exact (noting_play clock toZero front last c).mono fun e tells => fair_of_tells durations tells

/-- If there is a program, it fits into its period and its instructions last. -/
def FairProgram : Outcome (Option (List Instruction)) → Prop
  | .error _ => True
  | .ok none => False
  | .ok (some is) => ∀ i ∈ is, 10 ≤ i.duration

instance : DecidablePred FairProgram
  | .error _ => isTrue trivial
  | .ok none => isFalse id
  | .ok (some is) => inferInstanceAs (Decidable (∀ i ∈ is, 10 ≤ i.duration))

lemma play_fair {q : Device} (computes : q.fromFile = false) {n : Int} (counted : q.updates = some n) {t : Int}
    (fair : FairProgram (q.programOf q.properties t)) (toZero : Bool) {settle : Device → Device}
    (keeps : ∀ d, (settle d).updates = d.updates) (c : Bench) :
    Adds Fair c (perform (play toZero settle (some t)) q c).2 ∧
      ∀ q', (perform (play toZero settle (some t)) q c).1 = (.ok (), q') →
        q' = { settle { q with windowed := q.windowedAfter q.properties } with updates := some (n + 1) } := by
  rcases made : q.programOf q.properties t with e | _ | is
  · obtain ⟨w, computed⟩ := perform_programFor q.properties t q
    have current : perform (currentProgram (some t)) q c = ((.error e, { q with windowed := w }), c) := by
      rw [perform_currentProgram computes, computed, made]
    rw [perform_play_fault current]
    exact ⟨Adds.refl _ _, fun q' done => by simp at done⟩
  · rw [made] at fair
    exact fair.elim
  · rw [made] at fair
    have current := (perform_currentProgram computes t c).trans (perform_programFor_own made c)
    have adds := adds_play made fair q.config.clock toZero c
    have count := (keeps { q with windowed := q.windowedAfter q.properties }).trans counted
    rw [perform_play current toZero count]
    rcases ran : carry (Board.play q.config.clock toZero is) c with ⟨e | ⟨⟩, c'⟩
    all_goals rw [ran] at adds
    · exact ⟨adds, fun q' done => by simp at done⟩
    · exact ⟨adds, fun q' done => (Prod.mk.inj done).2.symm⟩

/-! ### A live session beside its rehearsal -/

variable {own : Own} {p p' q : Device} {b b' : Bench}

def Abreast (p' : Device) (c : Bench) (r : (Outcome Unit × Device) × Bench) : Prop :=
  Adds Fair c r.2 ∧ ∀ q', r.1 = (.ok (), q') → ∃ own, Twin own p' q' ∧ Met own p'

lemma Abreast.fault (c : Bench) (q : Device) (e : Fault) : Abreast p' c ((.error e, q), c) :=
  ⟨Adds.refl _ _, fun q' done => by simp at done⟩

lemma Abreast.ok (c : Bench) {q' : Device} (twin : Twin own p' q') (met : Met own p') :
    Abreast p' c ((.ok (), q'), c) :=
  ⟨Adds.refl _ _, fun _ done => (Prod.mk.inj done).2 ▸ ⟨own, twin, met⟩⟩

lemma abreast_of_leads {x y : Act Device Unit} (leads : Leads (Twin own) x y p q)
    (done : perform x p b = ((.ok (), p'), b')) (met : Met own p') (c : Bench) : Abreast p' c (perform y q c) := by
  obtain ⟨q', twin, follows⟩ := leads done
  rw [follows]
  exact .ok c twin met

/-! ### Programs that are not rehearsed -/

/-- What is played unchecked at an update is fair: a program that only has a new rate, and one whose windows the rehearsal
has moved. -/
def Backed (p : Device) : Prop := if p.waiting then p.WindowsStay else p.rated = true → FairProgram p.live.program

instance (p : Device) : Decidable p.Backed :=
  inferInstanceAs (Decidable (if p.waiting then p.WindowsStay else p.rated = true → FairProgram p.live.program))

lemma fair_of_live (met : Met own p) (rated : Bool) {t : Int} (rate : period p.rate = .ok (some t))
    (fair : FairProgram p.live.program) :
    FairProgram ((p.lived own rated).programOf (p.lived own rated).properties t) := by
  rcases made : (p.lived own rated).programOf (p.lived own rated).properties t with e | program
  · exact trivial
  · have alike : Alike p.live (p.lived own rated) := Alike.of_pulses rfl rfl rfl (met.alike rated).windows.symm
    rwa [program_eq (show period p.live.rate = _ from rate), programOf_congr alike rfl made] at fair

/-! ### The calls -/

lemma abreast_play {rated : Bool} (settle : Device → Device) (keeps : ∀ d, (settle d).updates = d.updates) {t : Int}
    (toZero : Bool) (met : Met own p)
    (fair : FairProgram ((p.lived own rated).programOf (p.lived own rated).properties t)) (c : Bench)
    (after : ∀ n, ∃ own', Twin own' p' { settle { p.lived own rated with windowed := hasWindow p.pulses } with
      updates := some (n + 1) } ∧ Met own' p') :
    Abreast p' c (perform (play toZero settle (some t)) (p.lived own rated) c) := by
  obtain ⟨n, counted⟩ := met.counts
  obtain ⟨adds, ends⟩ := play_fair (q := p.lived own rated) met.computes counted fair toZero keeps c
  refine ⟨adds, fun q' done => ?_⟩
  rw [ends q' done, windowedAfter_eq (p := p.lived own rated) met.live]
  exact after n

lemma abreast_update (twin : Twin own p q) (met : Met own p) (backed : p.Backed)
    (done : perform update p b = ((.ok (), p'), b')) (c : Bench) : Abreast p' c (perform update q c) := by
  obtain ⟨rehearsal, rated, still, rfl⟩ := id twin
  have live : (p.lived own rated).mode = .live := rfl
  obtain ⟨t, rate, ⟨idle, rfl⟩ | ⟨waits, is, w, made, durations, -⟩⟩ := update_rehearsed rehearsal done
  · rw [Backed, if_neg (by simp [idle])] at backed
    have mark : (p'.lived own rated).marked = rated := by
      show (p'.waiting || rated) = rated
      rw [idle, Bool.false_or]
    rw [perform_update_live live, show period (p'.lived own rated).rate = _ from rate]
    simp only [mark]
    cases rated with
    | false => exact .ok c twin met
    | true =>
      rw [if_pos rfl]
      refine abreast_play settle (fun _ => rfl) false met (fair_of_live met true rate (backed (still rfl))) c fun n => ?_
      obtain ⟨settled, shifted, incremented⟩ : p'.settled = true ∧ p'.shifted = false ∧ p'.incremented = false := by
        simpa [waiting, and_assoc] using idle
      refine ⟨⟨hasWindow p'.pulses, some (n + 1), own.fromFile, own.recorded⟩, ⟨rehearsal, false, by simp, ?_⟩,
        ⟨met.declared, met.rehearsed, id, met.computes, n + 1, rfl⟩⟩
      rw [settle, lived, lived]
      simp [settled, shifted, incremented]
  · rw [Backed, if_pos waits] at backed
    obtain rfl := windowed_of_update rehearsal waits rate made durations done
    have mark : (p.lived own rated).marked = true := by
      show (p.waiting || rated) = true
      rw [waits, Bool.true_or]
    rw [perform_update_live live, show period (p.lived own rated).rate = _ from rate]
    simp only [mark, if_true]
    have played := programOf_lenient rehearsal live (met.alike rated) backed made fun i member => by
      have := durations i member
      omega
    refine abreast_play settle (fun _ => rfl) false met (by rw [played]; exact durations) c fun n => ?_
    rw [windowedAfter_eq met.rehearsed]
    exact ⟨⟨hasWindow p.pulses, some (n + 1), own.fromFile, own.recorded⟩, ⟨rehearsal, false, by simp, rfl⟩,
      ⟨met.declared, id, id, met.computes, n + 1, rfl⟩⟩

lemma abreast_nextPhase (twin : Twin own p q) (met : Met own p) (backed : p.withPhase.Backed)
    (done : perform nextPhase p b = ((.ok (), p'), b')) (c : Bench) : Abreast p' c (perform nextPhase q c) := by
  obtain ⟨taken, updated⟩ := nextPhase_rehearsed done
  obtain ⟨q₁, twin₁, same⟩ := nextPhase_twin twin taken
  rw [same]
  exact abreast_update twin₁ (met.keeps (keeps_withPhase p)) backed updated c

lemma abreast_reset (twin : Twin own p q) (met : Met own p) {cycle : Value} (fair : FairProgram p.returned.live.program)
    (done : perform (reset cycle) p b = ((.ok (), p'), b')) (c : Bench) : Abreast p' c (perform (reset cycle) q c) := by
  obtain ⟨rehearsal, rated, still, rfl⟩ := twin
  obtain ⟨t, is, rate, -, rfl, -⟩ := reset_rehearsed rehearsal done
  have live : (p.lived own rated).mode = .live := rfl
  rw [perform_reset_live live, show period (p.lived own rated).rate = _ from rate]
  simp only
  rcases asked : cycle.equals "False" with e | restarts
  · rw [perform_bind, restartCount, perform_bind, perform_lift, asked]
    exact .fault c _ e
  · rw [perform_bind, show (p.lived own rated).returned = p.returned.lived own rated from rfl, perform_restartCount asked,
      proceed_ok]
    have met' := met.returned.restarted restarts
    refine abreast_play settleReset (fun _ => rfl) true met' (fair_of_live met' rated rate fair) c fun n => ?_
    rw [windowedAfter_eq met.returned.rehearsed]
    exact ⟨⟨hasWindow p.declared, some (n + 1), own.fromFile, own.recorded⟩, ⟨rehearsal, rated, still, rfl⟩,
      ⟨rfl, id, id, met.computes, n + 1, rfl⟩⟩

lemma abreast_restoreAll (twin : Twin own p q) (met : Met own p) {cycle : Value}
    (done : perform (restore [] cycle) p b = ((.ok (), p'), b')) (c : Bench) :
    Abreast p' c (perform (restore [] cycle) q c) := by
  have met' := met.keeps (ends_restore [] cycle p done).2.keeps
  rcases asked : cycle.equals "False" with e | restarts
  · obtain ⟨-, rated, -, rfl⟩ := twin
    rw [perform_restoreAll_live, restartCount, perform_bind, perform_lift, asked]
    exact .fault c _ e
  · exact abreast_of_leads (leads_restoreAll asked twin) done (met'.restarted restarts) c

end Device

namespace Call

open Device

variable {own : Own} {p p' q : Device} {b b' : Bench}

/-- What a call plays unchecked is fair. -/
def Backed : Call → Device → Prop
  | update, p => p.Backed
  | nextPhase, p => p.withPhase.Backed
  | reset _, p => FairProgram p.returned.live.program
  | _, _ => True

instance : ∀ (call : Call) (p : Device), Decidable (call.Backed p)
  | update, p => inferInstanceAs (Decidable p.Backed)
  | nextPhase, p => inferInstanceAs (Decidable p.withPhase.Backed)
  | reset _, p => inferInstanceAs (Decidable (FairProgram p.returned.live.program))
  | declare _, _ | redefine .., _ | askRate, _ | setRate _, _ | shift _, _ | increment _, _ | restore .., _ => isTrue trivial

lemma abreast (call : Call) (twin : Twin own p q) (met : Met own p) (backed : call.Backed p)
    (done : perform call.act p b = ((.ok (), p'), b')) (c : Bench) : Abreast p' c (perform call.act q c) := by
  have still (is : call.Still) : Abreast p' c (perform call.act q c) :=
    abreast_of_leads (call.leads is twin) done (call.met is.silent met done) c
  cases call with
  | update => exact abreast_update twin met backed done c
  | nextPhase => exact abreast_nextPhase twin met backed done c
  | reset cycle => exact abreast_reset twin met backed done c
  | restore names cycle =>
    cases names with
    | nil => exact abreast_restoreAll twin met done c
    | cons name names => exact still trivial
  | declare | redefine | askRate | setRate | shift | increment => exact still trivial

end Call

/-! ### Scripts -/

/-- Whatever the requests of a script play unchecked is fair. -/
def Backed : List Request → Device → Bench → Prop
  | [], _, _ => True
  | r :: rs, p, b =>
    (∀ call, Call.ofRequest r = .ok call → call.Backed p) ∧
      Backed rs (perform (carryOut r) p b).1.2 (perform (carryOut r) p b).2

instance decidableBacked : ∀ rs p b, Decidable (Backed rs p b)
  | [], _, _ => isTrue trivial
  | r :: rs, p, b =>
    haveI := decidableBacked rs (perform (carryOut r) p b).1.2 (perform (carryOut r) p b).2
    inferInstanceAs (Decidable ((∀ call, Call.ofRequest r = .ok call → call.Backed p) ∧
      Backed rs (perform (carryOut r) p b).1.2 (perform (carryOut r) p b).2))

open Device

variable {own : Own} {p p' q : Device} {b b' : Bench}

lemma abreast_script {rs : List Request} (understood : ∀ r ∈ rs, Call.Understood r) (twin : Twin own p q)
    (met : Met own p) (backed : Backed rs p b) (done : perform (script rs) p b = ((.ok (), p'), b')) (c : Bench) :
    Abreast p' c (perform (script rs) q c) := by
  induction rs generalizing own p q b c with
  | nil =>
    rw [script_nil, perform_pure, Prod.mk.injEq, Prod.mk.injEq] at done
    obtain ⟨⟨-, rfl⟩, -⟩ := done
    exact .ok c twin met
  | cons r rs ih =>
    obtain ⟨known, others⟩ := List.forall_mem_cons.mp understood
    obtain ⟨here, later⟩ := backed
    rw [script_cons] at done
    obtain ⟨⟨⟩, p₁, b₁, first, rest⟩ := perform_bind_ok.mp done
    obtain ⟨call, request, same⟩ := Call.exists_call known first
    rw [first] at later
    obtain ⟨adds, ends⟩ := call.abreast twin met (here call request) (same p b ▸ first) c
    rw [script_cons, perform_bind, same]
    rcases ran : perform call.act q c with ⟨⟨e | ⟨⟩, q₁⟩, c₁⟩
    all_goals rw [ran] at adds ends
    · exact ⟨adds, fun q' done => by simp at done⟩
    · obtain ⟨own₁, twin₁, met₁⟩ := ends q₁ rfl
      obtain ⟨adds', ends'⟩ := ih others twin₁ met₁ later rest c₁
      exact ⟨adds.trans adds', ends'⟩

/-- A script that has been rehearsed without a fault is fair when it is run live, on any bench: no sequence is found to be
longer than its period, and no instruction lasts less than ten nanoseconds. This takes for granted that the programs are
fair that no rehearsal checks. -/
theorem live_session_is_fair {rs : List Request} (understood : ∀ r ∈ rs, Call.Understood r) (config : Config)
    (rehearsal : b.mode = .rehearsal) (accepted : answer (script rs) (make config b.mode) b = .ok ())
    (backed : Backed rs (make config b.mode) b) {c : Bench} (live : c.mode = .live) :
    Adds Fair c (perform (script rs) (make config c.mode) c).2 := by
  rcases done : perform (script rs) (make config b.mode) b with ⟨⟨result, p'⟩, b'⟩
  obtain rfl : result = .ok () := by
    rw [answer, done] at accepted
    exact accepted
  rw [rehearsal] at done backed
  rw [live]
  have twin : Twin ⟨false, some 0, false, none⟩ (make config .rehearsal) (make config .live) :=
    ⟨rfl, false, by simp, rfl⟩
  have met : Met ⟨false, some 0, false, none⟩ (make config .rehearsal) := ⟨rfl, by simp [make], by simp, rfl, 0, rfl⟩
  exact (abreast_script understood twin met backed done c).1

/-- A phase cycle whose rate is changed before its pulses are moved and taken back. -/
def cycling : List Request := [
  declares "P0" "TRIGGER" "0 ns" "100 ns",
  declares "P1" "MW" "300 ns" "20 ns" [("delta_start", "10 ns"), ("phase_list", .list ["+x", "-x"])],
  { name := "pulser_next_phase" },
  { name := "pulser_repetition_rate", values := ["1 kHz"] },
  { name := "pulser_update" },
  { name := "pulser_shift" },
  { name := "pulser_next_phase" },
  { name := "pulser_reset" }]

theorem cycling_is_fair : answer (script cycling) (make .factory .rehearsal) { mode := .rehearsal } = .ok () ∧
      Backed cycling (make .factory .rehearsal) { mode := .rehearsal } ∧
      answer (script cycling) (make .factory .live) {} = .ok () ∧
      Adds Fair {} (perform (script cycling) (make .factory .live) {}).2 := by
  have accepted : answer (script cycling) (make .factory .rehearsal) { mode := .rehearsal } = .ok () := by decide +kernel
  have backed : Backed cycling (make .factory .rehearsal) { mode := .rehearsal } := by decide +kernel
  refine ⟨accepted, backed, by decide +kernel, ?_⟩
  exact live_session_is_fair (b := { mode := .rehearsal }) (by decide +kernel) .factory rfl accepted backed rfl

/-- A script whose second update has nothing but a new rate to notice. -/
def hurrying : List Request := [
  declares "P0" "TRIGGER" "0 ns" "100 ns",
  { name := "pulser_update" },
  { name := "pulser_repetition_rate", values := ["10 MHz"] },
  { name := "pulser_update" }]

/-- Its rehearsal finds nothing, and the live session ends because the sequence is longer than its period. -/
theorem new_rate_is_not_rehearsed :
    answer (script hurrying) (make .factory .rehearsal) { mode := .rehearsal } = .ok () ∧
      answer (script hurrying) (make .factory .live) {} = .error .stopped ∧
      ¬ Adds Fair {} (perform (script hurrying) (make .factory .live) {}).2 := by
  refine ⟨by decide +kernel, by decide +kernel, fun adds => ?_⟩
  obtain ⟨es, logged, fair⟩ := adds.log
  have last : ((perform (script hurrying) (make .factory .live) {}).2.log.toList.any
      fun e => match e with | .message text => text == Sequence.tooLong | _ => false) = true := by decide +kernel
  obtain ⟨e, member, text⟩ := List.any_eq_true.mp last
  rw [logged] at member
  have fits := (fair e (by simpa using member)).fits
  split at text
  · exact fits (congrArg Event.message (beq_iff_eq.mp text))
  · simp at text

end EprBench.Pulser
