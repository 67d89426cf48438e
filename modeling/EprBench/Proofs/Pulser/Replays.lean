import EprBench.Proofs.Pulser.Records
import EprBench.Proofs.Pulser.Twins

/-! Playing from a file. A live session that takes its programs from the file of a rehearsal plays what it would have
computed, as long as it reads each of them where the same rows were written down at the same rate. -/
namespace EprBench.Pulser

open List

variable {is : List Instruction} {cycle : Value} {call : Call}

namespace Device

variable {own : Own} {p p' q r d : Device} {b b' c : Bench} {config : Config}

/-! ### Programs that are written down -/

lemma program_eq_ok :
    p.program = .ok (some is) ↔ ∃ t, period p.rate = .ok (some t) ∧ p.programOf p.properties t = .ok (some is) := by
  constructor
  · intro made
    obtain ⟨time, rate, made⟩ := Outcome.bind_eq_ok.mp made
    cases time with
    | none => simp at made
    | some t => exact ⟨t, rate, made⟩
  · rintro ⟨t, rate, made⟩
    rw [program_eq rate, made]

structure Filmed (config : Config) (d : Device) (is : List Instruction) : Prop where
  rehearsal : d.mode = .rehearsal
  config : d.config = config
  seen : d.windowed = true → hasWindow d.pulses = true
  program : d.program = .ok (some is)
  lasts : ∀ i ∈ is, 10 ≤ i.duration

/-- The same rows at the same rate. -/
structure Agrees (d p : Device) : Prop where
  rate : period d.rate = period p.rate
  rows : d.converted = p.converted
  phases : d.phaseLengths.isEmpty = p.phaseLengths.isEmpty
  windows : hasWindow d.pulses = hasWindow p.pulses

lemma Agrees.refl (p : Device) : Agrees p p := ⟨rfl, rfl, rfl, rfl⟩

instance (d p : Device) : Decidable (Agrees d p) :=
  decidable_of_iff (period d.rate = period p.rate ∧ d.converted = p.converted ∧
      d.phaseLengths.isEmpty = p.phaseLengths.isEmpty ∧ hasWindow d.pulses = hasWindow p.pulses)
    ⟨fun ⟨rate, rows, phases, windows⟩ => ⟨rate, rows, phases, windows⟩,
      fun agrees => ⟨agrees.rate, agrees.rows, agrees.phases, agrees.windows⟩⟩

lemma alike_live (d : Device) : Alike d.live d := Alike.of_pulses rfl rfl rfl rfl

lemma converted_of_live {given : List Row} (converted : d.live.converted = .ok given) : d.converted = .ok given :=
  (Alike.of_pulses rfl rfl rfl rfl : Alike d d.live).rows converted

lemma Filmed.live (filmed : Filmed p.config d is) (stay : d.WindowsStay) (agrees : Agrees d p)
    (met : Met own p) (rated : Bool) : (p.lived own rated).program = .ok (some is) := by
  obtain ⟨t, rate, made⟩ := program_eq_ok.mp filmed.program
  have lasting : ∀ i ∈ is, 0 < i.duration := fun i hi => lt_of_lt_of_le (by decide) (filmed.lasts i hi)
  have played := programOf_lenient filmed.rehearsal rfl (alike_live d) stay made lasting
  have windows : (p.lived own rated).windowedAfter (p.lived own rated).properties =
      d.live.windowedAfter d.live.properties := by
    have computing : (p.lived own rated).windowedAfter (p.lived own rated).properties = hasWindow p.pulses :=
      windowedAfter_eq met.live
    have filming : d.live.windowedAfter d.live.properties = hasWindow d.pulses := windowedAfter_eq filmed.seen
    rw [computing, filming, agrees.windows]
  have alike : Alike (p.lived own rated) d.live := by
    refine ⟨filmed.config.symm, fun {given} converted => ?_, agrees.phases.symm, windows⟩
    have same := converted_of_live converted
    rw [agrees.rows] at same
    exact (met.alike rated).rows same
  rw [agrees.rate] at rate
  exact program_eq_ok.mpr ⟨t, rate, programOf_congr alike rfl played⟩

/-! ### Writing them -/

/-- What a live device keeps for itself at first. -/
def Own.fresh : Own := ⟨false, some 0, false, none⟩

def Records (config : Config) (ds : List Device) (b b' : Bench) : Prop :=
  ∃ programs, Forall₂ (Filmed config) ds programs ∧
    recordText b' = recordText b ++ String.join (programs.map recordLine)

lemma Records.nil (config : Config) (b : Bench) : Records config [] b b := ⟨[], .nil, by simp⟩

lemma Records.append {ds ds' : List Device} {b₁ : Bench} (first : Records config ds b b₁)
    (second : Records config ds' b₁ b') : Records config (ds ++ ds') b b' := by
  obtain ⟨here, filmed, text⟩ := first
  obtain ⟨later, filmed', text'⟩ := second
  exact ⟨here ++ later, rel_append filmed filmed',
    by rw [text', text, String.append_assoc, map_append, String.join_append]⟩

structure Rolling (config : Config) (p : Device) : Prop where
  rehearsal : p.mode = .rehearsal
  config : p.config = config
  records : p.fromFile = true
  met : Met .fresh p

lemma Rolling.update (rolling : Rolling config p) (done : perform update p b = ((.ok (), p'), b')) :
    Rolling config p' ∧ Records config ((some p).filter waiting).toList b b' := by
  have rehearsal := rolling.rehearsal
  obtain ⟨t, rate, ⟨idle, rfl⟩ | ⟨waits, is, w, made, durations, -⟩⟩ := update_rehearsed rehearsal done
  · rw [perform_update_idle rehearsal idle rate] at done
    obtain rfl := (Prod.mk.inj done).2
    rw [Option.filter_some, if_neg (Bool.eq_false_iff.mp idle)]
    exact ⟨rolling, Records.nil config b⟩
  · obtain rfl := windowed_of_update rehearsal waits rate made durations done
    obtain ⟨b₁, recorded, text⟩ := perform_record_text (p := { p with windowed := p.windowedAfter p.properties })
      rolling.records is b
    rw [perform_update_waiting rehearsal waits rate, perform_rehearse made durations, perform_bind, recorded, proceed_ok,
      perform_modify, Prod.mk.injEq] at done
    obtain rfl := done.2
    have met := rolling.met.windowed
    have filmed : Filmed config p is :=
      ⟨rehearsal, rolling.config, rolling.met.rehearsed, program_eq_ok.mpr ⟨t, rate, made⟩, durations⟩
    rw [Option.filter_some, if_pos waits]
    exact ⟨⟨rehearsal, rolling.config, rolling.records,
      ⟨met.declared, met.rehearsed, met.live, met.computes, met.counts⟩⟩, [is], .cons filmed .nil, by simpa using text⟩

lemma Rolling.withPhase (rolling : Rolling config p) : Rolling config p.withPhase :=
  ⟨rolling.rehearsal, rolling.config, rolling.records, rolling.met.keeps (keeps_withPhase p)⟩

lemma Rolling.reset (rolling : Rolling config p)
    (done : perform (reset cycle) p b = ((.ok (), p'), b')) : Rolling config p' ∧ b' = b := by
  obtain ⟨t, is, rate, -, rfl, same⟩ := reset_rehearsed rolling.rehearsal done
  have met := rolling.met.returned.windowed
  exact ⟨⟨rolling.rehearsal, rolling.config, rolling.records,
    ⟨met.declared, met.rehearsed, met.live, met.computes, met.counts⟩⟩, same⟩

lemma Rolling.keeps (rolling : Rolling config p) (keeps : Keeps p p') : Rolling config p' := by
  have mode : p'.fixed.mode = p.fixed.mode := by rw [keeps.frame]
  have wiring : p'.fixed.config = p.fixed.config := by rw [keeps.frame]
  have records : p'.fixed.fromFile = p.fixed.fromFile := by rw [keeps.frame]
  exact ⟨mode.trans rolling.rehearsal, wiring.trans rolling.config, records.trans rolling.records, rolling.met.keeps keeps⟩

end Device

namespace Call

open Device

variable {p p' q r : Device} {b b' c : Bench} {config : Config}

/-- The device that a call updates. -/
def updated : Call → Device → Option Device
  | update, p => some p
  | nextPhase, p => some p.withPhase
  | _, _ => none

/-- The device whose program a rehearsal writes down. -/
def take (call : Call) (p : Device) : Option Device := (call.updated p).filter waiting

lemma rolling (call : Call) (rolling : Rolling config p) (done : perform call.act p b = ((.ok (), p'), b')) :
    Rolling config p' ∧ Records config (call.take p).toList b b' := by
  have silent (still : call.Silent) : Rolling config p' ∧ Records config [] b b' := by
    obtain ⟨rfl, steps | ⟨r, n, -, rfl⟩⟩ := ends still p done
    · exact ⟨rolling.keeps steps.keeps, Records.nil config _⟩
    · exact ⟨⟨rolling.rehearsal, rolling.config, rolling.records, rolling.met.holdingAlso r n⟩, Records.nil config _⟩
  cases call with
  | update => exact rolling.update done
  | nextPhase => exact rolling.withPhase.update (nextPhase_rehearsed done).2
  | reset cycle =>
    obtain ⟨rolling', rfl⟩ := rolling.reset done
    exact ⟨rolling', Records.nil config _⟩
  | declare | redefine | askRate | setRate | shift | increment | restore => exact silent trivial

end Call

/-- The devices whose programs a script writes down, in turn. -/
def takes : List Request → Device → Bench → List Device
  | [], _, _ => []
  | r :: rs, p, b =>
    (match Call.ofRequest r with
      | .ok call => (call.take p).toList
      | .error _ => []) ++ takes rs (perform (carryOut r) p b).1.2 (perform (carryOut r) p b).2

open Device

lemma rolling_script {rs : List Request} (understood : ∀ r ∈ rs, Call.Understood r) {config : Config} {p p' : Device}
    {b b' : Bench} (rolling : Rolling config p) (done : perform (script rs) p b = ((.ok (), p'), b')) :
    Records config (takes rs p b) b b' := by
  induction rs generalizing p b with
  | nil =>
    rw [script_nil, perform_pure, Prod.mk.injEq] at done
    obtain rfl := done.2
    exact Records.nil config b
  | cons r rs ih =>
    obtain ⟨known, others⟩ := forall_mem_cons.mp understood
    rw [script_cons] at done
    obtain ⟨⟨⟩, p₁, b₁, first, rest⟩ := perform_bind_ok.mp done
    obtain ⟨call, request, same⟩ := Call.exists_call known first
    obtain ⟨rolling', here⟩ := call.rolling rolling (same p b ▸ first)
    rw [takes, request, first]
    exact here.append (ih others rolling' rest)

/-! ### Reading them -/

namespace Device

variable {own own' : Own} {p p' q r : Device} {b b' c : Bench} {programs : List (List Instruction)} {i : Nat}

def Shows (programs : List (List Instruction)) (i : Nat) (d : Device) : Prop :=
  ∃ is, programs[i]? = some is ∧ Legible is ∧ ∀ own rated, Met own d → (d.lived own rated).program = .ok (some is)

/-- Two live devices beside a rehearsed one: one that computes its programs, and one that reads them next at a place. -/
structure Paired (programs : List (List Instruction)) (i : Nat) (p q r : Device) : Prop where
  computes : ∃ own, Twin own p q ∧ Met own p ∧ own.updates = some (i : Int)
  reads : ∃ own, Twin own p r ∧ own.fromFile = true ∧ own.recorded = some (programs.map line) ∧
    own.updates = some (i : Int)

structure Same (programs : List (List Instruction)) (i : Nat) (p : Device) (x y : (Outcome Unit × Device) × Bench) :
    Prop where
  answer : x.1.1 = y.1.1
  bench : x.2 = y.2
  paired : x.1.1 = .ok () → Paired programs i p x.1.2 y.1.2

lemma Same.fault (e : Fault) (q r : Device) (c : Bench) : Same programs i p ((.error e, q), c) ((.error e, r), c) :=
  ⟨rfl, rfl, nofun⟩

lemma Same.ok (paired : Paired programs i p q r) (c : Bench) : Same programs i p ((.ok (), q), c) ((.ok (), r), c) :=
  ⟨rfl, rfl, fun _ => paired⟩

lemma Shows.computed {d : Device} (shows : Shows programs i d) (met : Met own d) (rated : Bool) {t : Int}
    (rate : period d.rate = .ok (some t)) : ∃ is, programs[i]? = some is ∧ is ≠ [] ∧ Legible is ∧
      ∀ c, perform (currentProgram (some t)) (d.lived own rated) c =
        ((.ok is, { d.lived own rated with windowed := hasWindow d.pulses }), c) := by
  obtain ⟨is, here, legible, computed⟩ := shows
  have made := computed own rated met
  rw [program_eq (show period (d.lived own rated).rate = _ from rate)] at made
  refine ⟨is, here, ?_, legible, fun c => ?_⟩
  · obtain ⟨front, last, rfl⟩ := concat_of_programOf made
    simp
  · rw [perform_currentProgram (p := d.lived own rated) met.computes, perform_programFor_own made,
      windowedAfter_eq (p := d.lived own rated) met.live]
    rfl

lemma same_play {q₁ : Device} {time : Option Int} {n : Int} (toZero : Bool)
    {settle : Device → Device} (computed : perform (currentProgram time) q c = ((.ok is, q₁), c))
    (read : perform (currentProgram time) r c = ((.ok is, r), c)) (clock : r.config.clock = q.config.clock)
    (counts : (settle q₁).updates = some n) (counts' : (settle r).updates = some n)
    (after : Paired programs i p { settle q₁ with updates := some (n + 1) } { settle r with updates := some (n + 1) }) :
    Same programs i p (perform (play toZero settle time) q c) (perform (play toZero settle time) r c) := by
  rw [perform_play computed toZero counts, perform_play read toZero counts', clock]
  rcases carry (Board.play q.config.clock toZero is) c with ⟨e | ⟨⟩, c'⟩
  · exact Same.fault e _ _ c'
  · exact Same.ok after c'

lemma same_update (paired : Paired programs i p q r) (done : perform update p b = ((.ok (), p'), b'))
    (kept : p.waiting = true ∨ p.rated = false) (shows : p.waiting = true → Shows programs i p) (c : Bench) :
    Same programs (i + ((some p).filter waiting).toList.length) p' (perform update q c) (perform update r c) := by
  obtain ⟨⟨own, twin, met, counts⟩, own', twin', reads, recorded, counts'⟩ := id paired
  obtain ⟨rehearsal, rated, still, rfl⟩ := twin
  obtain ⟨-, rated', still', rfl⟩ := twin'
  have live (own rated) : (p.lived own rated).mode = .live := rfl
  have marks (own rated) : (p.lived own rated).marked = (p.waiting || rated) := rfl
  obtain ⟨t, rate, ⟨idle, rfl⟩ | ⟨waits, is, w, made, durations, -⟩⟩ := update_rehearsed rehearsal done
  · have old : p'.rated = false := kept.resolve_left (by simp [idle])
    have none {rated : Bool} (still : rated = true → p'.rated = true) : rated = false := by
      rw [old] at still
      simpa using still
    obtain rfl := none still
    obtain rfl := none still'
    have same (own rated) : period (p'.lived own rated).rate = .ok (some t) := rate
    rw [perform_update_live (live _ _), perform_update_live (live _ _), same, same]
    simp only [marks, idle, Option.filter_some, Bool.or_false, Bool.false_eq_true, if_false]
    exact Same.ok paired c
  · obtain rfl := windowed_of_update rehearsal waits rate made durations done
    obtain ⟨is', here, filled, legible, computed⟩ := (shows waits).computed met rated rate
    have read : perform (currentProgram (some t)) (p.lived own' rated') c = ((.ok is', p.lived own' rated'), c) := by
      rw [perform_currentProgram_recorded (p := p.lived own' rated') reads,
        recordedProgram_eq (p := p.lived own' rated') recorded counts' here filled legible]
    have same (own rated) : period (p.lived own rated).rate = .ok (some t) := rate
    rw [perform_update_live (live _ _), perform_update_live (live _ _), same, same]
    simp only [marks, waits, Option.filter_some, Bool.true_or, if_true]
    refine same_play false (computed c) read rfl counts counts' ⟨?_, ?_⟩
    · rw [windowedAfter_eq met.rehearsed]
      exact ⟨⟨hasWindow p.pulses, some (i + 1), own.fromFile, own.recorded⟩, ⟨rehearsal, false, by simp, rfl⟩,
        ⟨met.declared, id, id, met.computes, i + 1, rfl⟩, rfl⟩
    · exact ⟨{ own' with updates := some (i + 1) }, ⟨rehearsal, false, by simp, rfl⟩, reads, recorded, rfl⟩

lemma same_nextPhase (paired : Paired programs i p q r) (done : perform nextPhase p b = ((.ok (), p'), b'))
    (kept : p.withPhase.waiting = true ∨ p.withPhase.rated = false)
    (shows : p.withPhase.waiting = true → Shows programs i p.withPhase) (c : Bench) :
    Same programs (i + ((some p.withPhase).filter waiting).toList.length) p' (perform nextPhase q c)
      (perform nextPhase r c) := by
  obtain ⟨taken, updated⟩ := nextPhase_rehearsed done
  obtain ⟨⟨own, twin, met, counts⟩, own', twin', reads⟩ := paired
  obtain ⟨q', twinned, computing⟩ := nextPhase_twin twin taken
  obtain ⟨r', twinned', reading⟩ := nextPhase_twin twin' taken
  rw [computing, reading]
  exact same_update ⟨⟨own, twinned, met.keeps (keeps_withPhase p), counts⟩, own', twinned', reads⟩ updated kept shows c

/-- Where the file is read next once it is wound back, if so. -/
def rewound (restarts : Bool) (i : Nat) : Nat := if restarts then 0 else i

lemma Own.restarted_updates {own : Own} (counts : own.updates = some (i : Int)) (restarts : Bool) :
    (own.restarted restarts).updates = some (rewound restarts i : Int) := by
  cases restarts with
  | true => rfl
  | false => exact counts

lemma decide_restarts (restarts : Bool) : decide ((.ok restarts : Outcome Bool) = .ok true) = restarts := by
  cases restarts <;> decide

lemma same_reset (paired : Paired programs i p q r) (done : perform (reset cycle) p b = ((.ok (), p'), b'))
    (shows : Shows programs (rewound (cycle.equals "False" = .ok true) i) p.returned) (c : Bench) :
    Same programs (rewound (cycle.equals "False" = .ok true) i + 1) p' (perform (reset cycle) q c)
      (perform (reset cycle) r c) := by
  obtain ⟨⟨own, twin, met, counts⟩, own', twin', reads, recorded, counts'⟩ := paired
  obtain ⟨rehearsal, rated, still, rfl⟩ := twin
  obtain ⟨-, rated', still', rfl⟩ := twin'
  obtain ⟨t, is, rate, -, rfl, -⟩ := reset_rehearsed rehearsal done
  have same (own rated) : period (p.lived own rated).rate = .ok (some t) := rate
  have back (own rated) : (p.lived own rated).returned = p.returned.lived own rated := rfl
  have live (own rated) : (p.lived own rated).mode = .live := rfl
  rw [perform_reset_live (live _ _), perform_reset_live (live _ _), same, same]
  simp only
  rcases asked : cycle.equals "False" with e | restarts
  · rw [perform_bind, perform_bind, restartCount, perform_bind, perform_bind, perform_lift, perform_lift, asked]
    exact Same.fault e _ _ c
  · rw [perform_bind, perform_bind, back, back, perform_restartCount asked, perform_restartCount asked, proceed_ok,
      proceed_ok]
    rw [asked, decide_restarts] at shows
    rw [decide_restarts]
    have met' := met.returned.restarted restarts
    have counts := Own.restarted_updates counts restarts
    have counts' := Own.restarted_updates counts' restarts
    obtain ⟨is', here, filled, legible, computed⟩ := shows.computed met' rated rate
    have read : perform (currentProgram (some t)) (p.returned.lived (own'.restarted restarts) rated') c =
        ((.ok is', p.returned.lived (own'.restarted restarts) rated'), c) := by
      rw [perform_currentProgram_recorded (p := p.returned.lived (own'.restarted restarts) rated') reads,
        recordedProgram_eq (p := p.returned.lived (own'.restarted restarts) rated') recorded counts' here filled legible]
    refine same_play true (computed c) read rfl counts counts' ⟨?_, ?_⟩
    · rw [windowedAfter_eq met.returned.rehearsed]
      exact ⟨⟨hasWindow p.declared, some (rewound restarts i + 1), own.fromFile, own.recorded⟩, ⟨rehearsal, rated, still, rfl⟩,
        ⟨rfl, id, id, met.computes, rewound restarts i + 1, rfl⟩, rfl⟩
    · exact ⟨{ own' with updates := some (rewound restarts i + 1) }, ⟨rehearsal, rated', still', rfl⟩, reads, recorded, rfl⟩

lemma same_restoreAll (paired : Paired programs i p q r)
    (done : perform (restore [] cycle) p b = ((.ok (), p'), b')) (c : Bench) :
    Same programs (rewound (cycle.equals "False" = .ok true) i) p' (perform (restore [] cycle) q c)
      (perform (restore [] cycle) r c) := by
  obtain ⟨⟨own, twin, met, counts⟩, own', twin', reads, recorded, counts'⟩ := paired
  have met' := met.keeps (ends_restore [] cycle p done).2.keeps
  rcases asked : cycle.equals "False" with e | restarts
  · obtain ⟨-, rated, -, rfl⟩ := twin
    obtain ⟨-, rated', -, rfl⟩ := twin'
    rw [perform_restoreAll_live, perform_restoreAll_live, restartCount, perform_bind, perform_bind, perform_lift,
      perform_lift, asked]
    exact Same.fault e _ _ c
  · obtain ⟨q', twinned, computing⟩ := leads_restoreAll asked twin done
    obtain ⟨r', twinned', reading⟩ := leads_restoreAll asked twin' done
    rw [computing, reading, decide_restarts]
    refine Same.ok ⟨?_, ?_⟩ c
    · exact ⟨_, twinned, met'.restarted restarts, Own.restarted_updates counts restarts⟩
    · exact ⟨_, twinned', reads, recorded, Own.restarted_updates counts' restarts⟩

end Device

namespace Call

open Device

variable {p p' q r : Device} {b b' : Bench} {programs : List (List Instruction)} {i : Nat}

/-- The device whose program a live session plays, where it takes notice of what the rehearsal does. -/
def plays : Call → Device → Option Device
  | reset _, p => some p.returned
  | call, p => call.take p

/-- A call that winds the file back. -/
def rewinds : Call → Bool
  | reset cycle | restore [] cycle => cycle.equals "False" = .ok true
  | _ => false

/-- No rate is new without a change that a rehearsal takes notice of. -/
def RateKept (call : Call) (p : Device) : Prop := ∀ d ∈ call.updated p, d.waiting = true ∨ d.rated = false

lemma same (call : Call) (paired : Paired programs i p q r) (done : perform call.act p b = ((.ok (), p'), b'))
    (kept : call.RateKept p) (shows : ∀ d ∈ call.plays p, Shows programs (rewound call.rewinds i) d) (c : Bench) :
    Same programs (rewound call.rewinds i + (call.plays p).toList.length) p' (perform call.act q c)
      (perform call.act r c) := by
  have still (is : call.Still) : Same programs i p' (perform call.act q c) (perform call.act r c) := by
    obtain ⟨⟨own, twin, met, counts⟩, own', twin', reads⟩ := paired
    obtain ⟨q', twinned, computing⟩ := call.leads is twin done
    obtain ⟨r', twinned', reading⟩ := call.leads is twin' done
    rw [computing, reading]
    exact Same.ok ⟨⟨own, twinned, call.met is.silent met done, counts⟩, own', twinned', reads⟩ c
  have shown {d : Device} (updates : call.updated p = some d) (plain : call.plays p = call.take p) (waits : d.waiting = true) :
      d ∈ call.plays p := by
    rw [plain, take, updates, Option.filter_some, if_pos waits]
    rfl
  cases call with
  | update => exact same_update paired done (kept p rfl) (fun waits => shows p (shown rfl rfl waits)) c
  | nextPhase =>
    exact same_nextPhase paired done (kept p.withPhase rfl) (fun waits => shows p.withPhase (shown rfl rfl waits)) c
  | reset cycle => exact same_reset paired done (shows p.returned rfl) c
  | restore names cycle =>
    cases names with
    | nil => exact same_restoreAll paired done c
    | cons name names => exact still trivial
  | declare | redefine | askRate | setRate | shift | increment => exact still trivial

end Call

/-! ### Scripts -/

/-- How many programs have been written, and which one is read next. -/
structure Reel where
  written : Nat
  next : Nat

namespace Call

variable {p d : Device} {reel : Reel} {film : List Device}

def wound (call : Call) (p : Device) (reel : Reel) : Reel :=
  ⟨reel.written + (call.take p).toList.length, rewound call.rewinds reel.next + (call.plays p).toList.length⟩

/-- What is read is what is written at the same time, or it was written for the same rows at the same rate. -/
def InStep (film : List Device) (reel : Reel) (call : Call) (p : Device) : Prop :=
  call.RateKept p ∧ ∀ d ∈ call.plays p,
    ((call.take p).isSome = true ∧ rewound call.rewinds reel.next = reel.written) ∨
      ∃ taken ∈ film[rewound call.rewinds reel.next]?, Agrees taken d

instance (film : List Device) (reel : Reel) (call : Call) (p : Device) : Decidable (call.InStep film reel p) :=
  inferInstanceAs (Decidable ((∀ d ∈ call.updated p, d.waiting = true ∨ d.rated = false) ∧ ∀ d ∈ call.plays p,
    ((call.take p).isSome = true ∧ rewound call.rewinds reel.next = reel.written) ∨
      ∃ taken ∈ film[rewound call.rewinds reel.next]?, Agrees taken d))

lemma plays_of_take (takes : (call.take p).isSome = true) : call.plays p = call.take p := by
  cases call with
  | reset => simp [take, updated] at takes
  | _ => rfl

lemma plays_config (plays : d ∈ call.plays p) : d.config = p.config := by
  have updates {call : Call} (takes : d ∈ call.take p) : d.config = p.config := by
    obtain ⟨updated, -⟩ := Option.mem_filter_iff.mp takes
    cases call with
    | update => exact (Option.mem_some.mp updated) ▸ rfl
    | nextPhase => exact (Option.mem_some.mp updated) ▸ rfl
    | _ => simp [Call.updated] at updated
  cases call with
  | reset => exact (Option.mem_some.mp plays) ▸ rfl
  | _ => exact updates plays

lemma InStep.shows (instep : call.InStep film reel p) {config : Config} (wired : p.config = config)
    {programs : List (List Instruction)} (filmed : Forall₂ (Filmed config) film programs)
    (stay : ∀ d ∈ film, d.WindowsStay) (legible : ∀ is ∈ programs, Legible is) {before after : List Device}
    (whole : film = before ++ ((call.take p).toList ++ after)) (written : reel.written = before.length)
    (plays : d ∈ call.plays p) : Shows programs (rewound call.rewinds reel.next) d := by
  have found : ∃ taken, film[rewound call.rewinds reel.next]? = some taken ∧ Agrees taken d := by
    rcases instep.2 d plays with ⟨takes, place⟩ | found
    · rw [plays_of_take takes] at plays
      refine ⟨d, ?_, Agrees.refl d⟩
      rw [place, written, whole, Option.mem_def.mp plays]
      simp
    · exact found
  obtain ⟨taken, place, agrees⟩ := found
  obtain ⟨is, here, shot⟩ := Outcome.exists_of_getElem? filmed place
  have wired' : Filmed d.config taken is := by
    rw [plays_config plays, wired]
    exact shot
  exact ⟨is, here, legible is (List.mem_of_getElem? here), fun own rated met =>
    wired'.live (stay taken (List.mem_of_getElem? place)) agrees met rated⟩

end Call

open Device

/-- Along a script, what is read is what was written for the same rows at the same rate. -/
def InStep (film : List Device) : Reel → List Request → Device → Bench → Prop
  | _, [], _, _ => True
  | reel, r :: rs, p, b => ∀ call, Call.ofRequest r = .ok call → call.InStep film reel p ∧
      InStep film (call.wound p reel) rs (perform (carryOut r) p b).1.2 (perform (carryOut r) p b).2

instance decidableInStep (film : List Device) : ∀ reel rs p b, Decidable (InStep film reel rs p b)
  | _, [], _, _ => isTrue trivial
  | reel, r :: rs, p, b =>
    haveI (call : Call) := decidableInStep film (call.wound p reel) rs (perform (carryOut r) p b).1.2
      (perform (carryOut r) p b).2
    inferInstanceAs (Decidable (∀ call, Call.ofRequest r = .ok call → call.InStep film reel p ∧
      InStep film (call.wound p reel) rs (perform (carryOut r) p b).1.2 (perform (carryOut r) p b).2))

variable {p p' q r : Device} {b b' : Bench} {config : Config} {film : List Device} {programs : List (List Instruction)}

lemma same_script {rs : List Request} (understood : ∀ r ∈ rs, Call.Understood r)
    (filmed : Forall₂ (Filmed config) film programs) (stay : ∀ d ∈ film, d.WindowsStay)
    (legible : ∀ is ∈ programs, Legible is) {before : List Device} (whole : film = before ++ takes rs p b) {reel : Reel}
    (written : reel.written = before.length) (rolling : Rolling config p) (instep : InStep film reel rs p b)
    (paired : Paired programs reel.next p q r) (done : perform (script rs) p b = ((.ok (), p'), b'))
    {front : List Request} (part : front <+: rs) (c : Bench) : answer (script front) q c = answer (script front) r c ∧
      (perform (script front) q c).2 = (perform (script front) r c).2 := by
  induction rs generalizing front p q r b before reel c with
  | nil =>
    rw [prefix_nil.mp part, script_nil]
    exact ⟨rfl, rfl⟩
  | cons x rs ih =>
    rcases prefix_cons_iff.mp part with rfl | ⟨front', rfl, part'⟩
    · rw [script_nil]
      exact ⟨rfl, rfl⟩
    obtain ⟨known, others⟩ := forall_mem_cons.mp understood
    rw [script_cons] at done
    obtain ⟨⟨⟩, p₁, b₁, first, rest⟩ := perform_bind_ok.mp done
    obtain ⟨call, request, same⟩ := Call.exists_call known first
    obtain ⟨here, later⟩ := instep call request
    rw [takes, request, first] at whole
    rw [first] at later
    rw [same] at first
    have step := call.same paired first here.1 (fun d plays =>
      here.shows rolling.config filmed stay legible whole written plays) c
    simp only [answer, script_cons, perform_bind, same]
    rcases ran : perform call.act q c with ⟨⟨result, q₁⟩, c₁⟩
    rcases ran' : perform call.act r c with ⟨⟨result', r₁⟩, c₁'⟩
    rw [ran, ran'] at step
    obtain rfl : result = result' := step.answer
    obtain rfl : c₁ = c₁' := step.bench
    rcases result with e | ⟨⟩
    · exact ⟨rfl, rfl⟩
    · refine ih others (whole.trans (append_assoc ..).symm) ?_ (call.rolling rolling first).1 later (step.paired rfl) rest
        part' c₁
      rw [length_append, ← written]
      rfl

def recording (config : Config) : Device := { make config .rehearsal with fromFile := true }

/-- A script that plays its programs from the file, or writes them there. -/
def fromRecord (rs : List Request) : Act Device Unit := do
  useFile (.int 1) (.text recordFile)
  script rs

/-- A live session that plays from the file of its rehearsal plays what it would have computed, request by request: the
bench is the same after each of them, and so is what they answer. The file starts empty; its programs have numbers of 64
bits and windows that stay where they are; and each of them is read where it was written, or where one was written for the
same rows at the same rate. -/
theorem recorded_programs_are_played {rs : List Request} (understood : ∀ r ∈ rs, Call.Understood r) (config : Config)
    (rehearsal : b.mode = .rehearsal) (blank : recordText b = "")
    (recorded : perform (fromRecord rs) (make config b.mode) b = ((.ok (), p'), b'))
    (stay : ∀ d ∈ takes rs (recording config) b, d.WindowsStay)
    (legible : ∀ d ∈ takes rs (recording config) b, ∀ made, d.program = .ok made → ∀ is ∈ made, Legible is)
    (instep : InStep (takes rs (recording config) b) ⟨0, 0⟩ rs (recording config) b) {c : Bench} (live : c.mode = .live)
    (readable : Readable c (recordText b')) {front : List Request} (part : front <+: rs) :
    answer (fromRecord front) (make config c.mode) c = answer (script front) (make config c.mode) c ∧
      (perform (fromRecord front) (make config c.mode) c).2 = (perform (script front) (make config c.mode) c).2 := by
  rw [rehearsal] at recorded
  have wanted : perform (useFile (.int 1) (.text recordFile)) (make config .rehearsal) b =
    ((.ok (), recording config), b) := perform_useFile_rehearsal rfl b
  rw [fromRecord, perform_bind, wanted, proceed_ok] at recorded
  have met : Met .fresh (recording config) := ⟨rfl, by simp [recording, make], by simp [Own.fresh], rfl, 0, rfl⟩
  have rolling : Rolling config (recording config) := ⟨rfl, rfl, rfl, met⟩
  obtain ⟨programs, filmed, text⟩ := rolling_script understood rolling recorded
  rw [blank, String.empty_append] at text
  have opened := perform_useFile (p := make config .live) rfl readable
  rw [text, lines_of_record] at opened
  have readable : ∀ is ∈ programs, Legible is := by
    intro is member
    obtain ⟨d, hd, shot⟩ := Outcome.exists_of_mem_right filmed member
    exact legible d hd _ shot.program is rfl
  have paired : Paired programs 0 (recording config) (make config .live)
      { make config .live with fromFile := true, recorded := some (programs.map line) } := by
    refine ⟨⟨.fresh, ⟨rfl, false, by simp, rfl⟩, met, rfl⟩, ?_⟩
    exact ⟨⟨false, some 0, true, some (programs.map line)⟩, ⟨rfl, false, by simp, rfl⟩, rfl, rfl, rfl⟩
  obtain ⟨answers, benches⟩ := same_script understood filmed stay readable (nil_append _).symm rfl rolling instep paired
    recorded part c
  rw [live, answer, fromRecord, perform_bind, opened, proceed_ok]
  exact ⟨answers.symm, benches.symm⟩

/-- A scan that goes back to its first point and is begun again. -/
def scanning : List Request := [
  declares "P0" "TRIGGER" "0 ns" "100 ns",
  declares "P1" "MW" "300 ns" "20 ns" [("delta_start", "10 ns")],
  { name := "pulser_update" },
  { name := "pulser_shift" },
  { name := "pulser_update" },
  { name := "pulser_reset" },
  { name := "pulser_shift" },
  { name := "pulser_update" }]

def blankBench : Bench := { mode := .rehearsal, files := [(recordFile, "")] }

/-- A live bench with the file that the rehearsal of a script leaves behind. -/
def replayBench (rs : List Request) : Bench :=
  { files := (perform (fromRecord rs) (make .factory blankBench.mode) blankBench).2.files }

theorem scan_is_played_from_the_file : (takes scanning (recording .factory) blankBench).length = 3 ∧
      InStep (takes scanning (recording .factory) blankBench) ⟨0, 0⟩ scanning (recording .factory) blankBench ∧
      answer (script scanning) (make .factory (replayBench scanning).mode) (replayBench scanning) = .ok () ∧
      (perform (fromRecord scanning) (make .factory (replayBench scanning).mode) (replayBench scanning)).2 =
        (perform (script scanning) (make .factory (replayBench scanning).mode) (replayBench scanning)).2 := by
  have recorded : answer (fromRecord scanning) (make .factory blankBench.mode) blankBench = .ok () := by decide +kernel
  have readable : Readable (replayBench scanning)
      (recordText (perform (fromRecord scanning) (make .factory blankBench.mode) blankBench).2) :=
    ⟨by decide +kernel, by decide +kernel⟩
  have instep : InStep (takes scanning (recording .factory) blankBench) ⟨0, 0⟩ scanning (recording .factory) blankBench := by
    decide +kernel
  have stay : ∀ d ∈ takes scanning (recording .factory) blankBench, d.WindowsStay := by decide +kernel
  have legible : ∀ d ∈ takes scanning (recording .factory) blankBench, ∀ made, d.program = .ok made →
      ∀ is ∈ made, Legible is := by decide +kernel
  refine ⟨by decide +kernel, instep, by decide +kernel, ?_⟩
  exact (recorded_programs_are_played (by decide +kernel) .factory rfl (by decide +kernel) (perform_of_answer recorded) stay
    legible instep rfl readable (prefix_refl _)).2

/-- A script whose second update has nothing but a new rate to notice. -/
def slowing : List Request := [
  declares "P0" "TRIGGER" "0 ns" "100 ns",
  { name := "pulser_update" },
  { name := "pulser_repetition_rate", values := ["1 kHz"] },
  { name := "pulser_update" }]

/-- Its rehearsal writes one program down. The live session computes two, and finds no second one in the file. -/
theorem new_rate_is_not_recorded : answer (fromRecord slowing) (make .factory blankBench.mode) blankBench = .ok () ∧
      answer (script slowing) (make .factory .live) (replayBench slowing) = .ok () ∧
      answer (fromRecord slowing) (make .factory .live) (replayBench slowing) = .error .outOfRange := by
  refine ⟨by decide +kernel, by decide +kernel, ?_⟩
  have readable : Readable (replayBench slowing) "0,0,50,1,50,100,0,150,499999850\n" :=
    ⟨by decide +kernel, by decide +kernel⟩
  rw [answer, fromRecord, perform_bind, perform_useFile rfl readable, proceed_ok]
  decide +kernel

end EprBench.Pulser
