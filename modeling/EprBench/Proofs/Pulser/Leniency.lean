import EprBench.Proofs.Pulser.Windows

/-! A live session is more lenient than a rehearsal: what a rehearsal gets through, a live session gets through too,
and both come to the same result. -/
namespace EprBench.Pulser

open Outcome List

variable {ps : List Pulse} {c : Config} {mode : Mode} {index : Nat} {windowed : Bool} {is : List Instruction}
  {b : Bench}

/-! ### Moving pulses -/

lemma Move.read_lenient (m : Move) (before : Option Int) (v : Value) :
    Lenient (m.read .rehearsal before v) (m.read .live before v) := by
  refine (Lenient.refl _).bind fun words _ => (Lenient.refl _).bind fun unit _ => ?_
  split
  · exact .refl _
  · exact .fault _ _

lemma Move.apply_lenient (m : Move) (seen : Seen) (p : Pulse) :
    Lenient (m.apply .rehearsal seen p) (m.apply .live seen p) := by
  refine (Lenient.refl _).bind fun text _ => (Lenient.refl _).bind fun lead _ => ?_
  split
  · exact .refl _
  · refine (m.read_lenient _ _).bind fun step _ => (m.read_lenient _ _).bind fun place _ => ?_
    split
    · split
      · exact .fault _ _
      · exact .refl _
    · exact .refl _

lemma Move.all_lenient (m : Move) (seen : Seen) {qs : List Pulse}
    (rehearsed : m.all .rehearsal seen ps = (qs, none)) : m.all .live seen ps = (qs, none) := by
  induction ps generalizing seen qs with
  | nil => exact rehearsed
  | cons p ps ih =>
    rw [Move.all] at rehearsed ⊢
    rcases moved : m.apply .rehearsal seen p with e | ⟨q, seen'⟩
    · simp [moved] at rehearsed
    · rw [m.apply_lenient seen p moved]
      rcases later : m.all .rehearsal seen' ps with ⟨rest, f⟩
      simp only [moved, later, Prod.mk.injEq] at rehearsed
      obtain ⟨rfl, rfl⟩ := rehearsed
      simp only [ih seen' later]

/-! ### Setting phases -/

lemma moved_lenient (time delay : Value) : Lenient (moved .rehearsal time delay) (moved .live time delay) :=
  fun _ done => moved_ok done

lemma phasePulses_lenient (c : Config) (index : Nat) (p : Pulse) :
    Lenient (phasePulses c .rehearsal index p) (phasePulses c .live index p) := by
  refine (Lenient.refl _).bind fun phases _ => ?_
  split
  · exact .refl _
  · refine (Lenient.refl _).bind fun phase _ => (Lenient.refl _).bind fun found _ => ?_
    split
    · exact .fault _ _
    · exact .refl _
    · exact (moved_lenient _ _).bind fun start _ => (moved_lenient _ _).bind fun length _ => .refl _
    · exact .refl _

lemma PhaseStep.add_ok {done : PhaseStep} {p : Pulse} (fine : (done.add c mode index p).fault = none) :
    done.fault = none ∧ ∃ qs, phasePulses c mode index p = .ok qs := by
  rw [PhaseStep.add] at fine
  split at fine
  · rename_i f failed
    rw [failed] at fine
    simp at fine
  · rename_i before
    rcases set : phasePulses c mode index p with f | qs
    · rw [set] at fine
      simp at fine
    · exact ⟨before, qs, rfl⟩

lemma PhaseStep.add_eq_take {done : PhaseStep} {p : Pulse}
    (fine : done.fault = none) {qs : Option (List Pulse)} (set : phasePulses c mode index p = .ok qs) :
    done.add c mode index p = done.take qs := by
  rw [PhaseStep.add, fine, set]

lemma PhaseStep.fault_of_foldl {done : PhaseStep}
    (fine : (ps.foldl (PhaseStep.add c mode index) done).fault = none) : done.fault = none := by
  induction ps generalizing done with
  | nil => exact fine
  | cons p ps ih => exact (add_ok (ih fine)).1

lemma PhaseStep.foldl_lenient {done : PhaseStep}
    (rehearsed : (ps.foldl (PhaseStep.add c .rehearsal index) done).fault = none) :
    ps.foldl (PhaseStep.add c .live index) done = ps.foldl (PhaseStep.add c .rehearsal index) done := by
  induction ps generalizing done with
  | nil => rfl
  | cons p ps ih =>
    rw [foldl_cons] at rehearsed
    obtain ⟨fine, qs, set⟩ := add_ok (fault_of_foldl rehearsed)
    have same : done.add c .live index p = done.add c .rehearsal index p := by
      rw [add_eq_take fine set, add_eq_take fine (phasePulses_lenient c index p set)]
    rw [foldl_cons, foldl_cons, same]
    exact ih rehearsed

lemma phaseStep_lenient (rehearsed : (phaseStep c .rehearsal index ps).fault = none) :
    phaseStep c .live index ps = phaseStep c .rehearsal index ps :=
  PhaseStep.foldl_lenient rehearsed

/-! ### Protection -/

lemma checkDistance_lenient (d : Int) (rows : List Row) :
    Lenient (checkDistance .rehearsal d rows) (checkDistance .live d rows) := fun _ _ => rfl

lemma checkDriven_lenient (c : Config) (windowed : Bool) (rows : List Row) :
    Lenient (checkDriven c .rehearsal windowed rows) (checkDriven c .live windowed rows) := by
  unfold checkDriven
  split
  · exact checkDistance_lenient _ _
  · refine (Lenient.refl _).bind fun awg _ => (checkDistance_lenient _ _).bind fun _ _ => ?_
    exact (checkDistance_lenient _ _).bind fun _ _ => checkDistance_lenient _ _

lemma amplifierRow_lenient (c : Config) (start stop : Int) :
    Lenient (amplifierRow c .rehearsal start stop) (amplifierRow c .live start stop) :=
  Lenient.bind (fun _ _ => rfl) fun _ _ => .refl _

lemma shieldRows_lenient (c : Config) {ofPulse ofPulse' ofWindow ofWindow' : Row → Outcome Row}
    (pulses : ∀ r, Lenient (ofPulse r) (ofPulse' r)) (windows : ∀ r, Lenient (ofWindow r) (ofWindow' r))
    (rows : List Row) : Lenient (shieldRows c ofPulse ofWindow rows) (shieldRows c ofPulse' ofWindow' rows) := by
  refine .bind (.mapM fun r _ => (Lenient.refl _).bind fun mw _ => ?_) fun made _ => .refl _
  split
  · exact (pulses r).bind fun _ _ => .refl _
  · refine (Lenient.refl _).bind fun awg _ => ?_
    split
    · exact (windows r).bind fun _ _ => .refl _
    · exact .refl _

lemma receiverBase_lenient {rows : List Row}
    (steady : windowed = true → ∀ awg, c.bit "AWG" = .ok awg → Steady awg rows) :
    Lenient (receiverBase c .rehearsal windowed rows) (receiverBase c .live windowed rows) := by
  cases windowed with
  | false => exact .refl _
  | true =>
    intro base done
    obtain ⟨awg, bit, -⟩ := bind_eq_ok.mp (show rehearsedWindows c rows = .ok base from done)
    exact (rehearsedWindows_of_steady bit (steady rfl awg bit)).symm.trans done

lemma protections_lenient {rows : List Row}
    (steady : windowed = true → ∀ awg, c.bit "AWG" = .ok awg → Steady awg rows) (phased : Bool)
    (own : Outcome (List (List Row))) :
    Lenient (protections c .rehearsal windowed phased own rows) (protections c .live windowed phased own rows) := by
  refine (shieldRows_lenient c (fun r => amplifierRow_lenient c _ _) (fun r => amplifierRow_lenient c _ _) rows).bind ?_
  refine fun amp _ => (Lenient.refl _).bind fun on _ => (receiverBase_lenient steady).bind fun base _ => ?_
  exact .refl _

lemma closeGaps_lenient (c : Config) (channel : Value) (bits : List Int) :
    Lenient (closeGaps c .rehearsal channel bits) (closeGaps c .live channel bits) := by
  refine (Lenient.refl _).bind fun protects _ => ?_
  split
  · exact .refl _
  · exact .bind (fun _ _ => rfl) fun _ _ => .refl _

lemma protectionBits_lenient (c : Config) (channel : Value) (rows : List Row) :
    Lenient (protectionBits c .rehearsal channel rows) (protectionBits c .live channel rows) :=
  (Lenient.refl _).bind fun bits _ => (closeGaps_lenient c channel bits).bind fun _ _ => .refl _

lemma mended_lenient (c : Config) (name : String) (rows : List Row) :
    Lenient (mended c .rehearsal name rows) (mended c .live name rows) := by
  unfold mended
  simp only
  split
  · exact .refl _
  · exact (Lenient.refl _).bind fun n _ => (protectionBits_lenient c _ _).bind fun bits _ => .refl _

namespace Sequence

/-- A group whose windows a rehearsal leaves alone, with rows that do not end before they start. -/
structure Tidy (c : Config) (g : List Row) : Prop where
  unaltered : Unaltered c g
  ordered : ∀ r ∈ g, r.start ≤ r.stop

lemma protectGroup_lenient {phased : Bool} (own : Outcome (List (List Row))) {g : List Row}
    (tidy : windowed = true → Tidy c g) :
    Lenient (protectGroup ⟨c, .rehearsal, windowed, phased⟩ own g) (protectGroup ⟨c, .live, windowed, phased⟩ own g) := by
  refine (Lenient.refl _).bind fun driven _ => ?_
  split
  · refine (checkDriven_lenient c windowed g).bind fun _ checked => ?_
    have steady : windowed = true → ∀ awg, c.bit "AWG" = .ok awg → Steady awg g := by
      rintro rfl awg bit
      exact steady_of_checkDriven bit (tidy rfl).unaltered (tidy rfl).ordered checked
    refine (protections_lenient steady phased own).bind fun shields _ => ?_
    exact (mended_lenient c _ _).bind fun on _ => (mended_lenient c _ _).bind fun _ _ => .refl _
  · refine (Lenient.refl _).bind fun phases _ => ?_
    split
    · exact (checkDistance_lenient _ _).bind fun _ _ => .refl _
    · exact (checkDistance_lenient _ _).bind fun _ _ => .refl _

lemma prepared_lenient {phased : Bool} {given : List Row} (own : Outcome (List Row))
    (tidy : c.autoDefense = "True" → windowed = true → ∀ gs, grouped c windowed phased given = .ok gs → ∀ g ∈ gs, Tidy c g) :
    Lenient (prepared ⟨c, .rehearsal, windowed, phased⟩ given own) (prepared ⟨c, .live, windowed, phased⟩ given own) := by
  unfold prepared
  simp only
  split
  · refine (Lenient.refl _).bind fun groups _ => ?_
    exact (Lenient.forM fun g _ => checkDistance_lenient _ g).bind fun _ _ => .refl _
  · rename_i defended
    refine (Lenient.refl _).bind fun gs made => ?_
    refine .bind (.mapM fun g hg => protectGroup_lenient _ fun windows => ?_) fun _ _ => .refl _
    exact tidy defended windows gs made g hg
  · exact .refl _

/-! ### Programs -/

lemma ordered_of_assemble {s : Sequence} {rows : List Row} (done : s.assemble rows = .ok is) :
    ∀ r ∈ rows, r.start ≤ r.stop := by
  obtain ⟨made, parts, -⟩ := bind_eq_ok.mp done
  intro r hr
  obtain ⟨part, member, here⟩ := List.mem_flatten.mp ((s.parts_perm rows).mem_iff.mpr hr)
  obtain ⟨piece, -, done⟩ := exists_of_mem_left (mapM_eq_ok parts) member
  obtain ⟨⟨ws, lo⟩, ordered, -⟩ := bind_eq_ok.mp done
  rw [words] at ordered
  split at ordered
  · exact absurd ordered throw_bind_ne_ok
  split at ordered
  · exact absurd ordered throw_bind_ne_ok
  · rename_i proper
    simp only [any_eq_true, decide_eq_true_eq, not_exists, not_and, not_lt] at proper
    exact proper r here

lemma ne_nil_of_finish {t : Int} (ended : finish is = .ok t) : is ≠ [] := by
  rintro rfl
  simp [finish] at ended

lemma waits_of_pieces {timebase first ended : Int} {ps : List (List Row)} (filled : pieces timebase first ended ps ≠ [])
    (before : ∀ r ∈ ps.flatten, ended < r.start) :
    ∃ i ∈ pieces timebase first ended ps, ∃ k, 0 < k ∧ i.duration = timebase * k := by
  induction ps with
  | nil => exact absurd rfl filled
  | cons p ps ih =>
    rw [flatten_cons] at before
    rcases eq_or_ne p [] with rfl | here
    · exact ih filled fun r hr => before r hr
    · obtain ⟨r, hr, start⟩ := exists_firstStart here
      have gap := before r (mem_append_left _ hr)
      rw [pieces_cons here]
      exact ⟨_, mem_cons_self, firstStart p - ended, by omega, rfl⟩

lemma positive_of_lasting {s : Sequence} {period : Int} {rows : List Row} (sound : Sound rows)
    (done : s.program period rows = .ok (some is)) (lasting : ∀ i ∈ is, 0 < i.duration) : 0 < s.config.timebase := by
  obtain ⟨filled, front, assembled, closed⟩ := program_eq_ok done
  obtain ⟨t, ended, -, rfl⟩ := close_eq_some closed
  obtain ⟨-, rfl⟩ := (s.assemble_eq_ok filled sound front).mp assembled
  have before : ∀ r ∈ ((s.parts rows).map busy).flatten, firstStart rows - leadIn < r.start := fun r hr =>
    lt_of_lt_of_le (leadIn_before rows) (firstStart_le (mem_busy.mp ((s.flatten_busy_parts rows).mem_iff.mp hr)).1)
  obtain ⟨i, hi, k, ticks, duration⟩ := waits_of_pieces (ne_nil_of_finish ended) before
  have lasts := lasting i (mem_append_left _ hi)
  rw [duration] at lasts
  exact (mul_pos_iff_of_pos_right ticks).mp lasts

end Sequence

namespace Device

variable {p q : Device} {rows : List Row}

def groups (p : Device) : Outcome (List (List Row)) :=
  p.converted >>= grouped p.config (p.windowedAfter p.properties) (!p.phaseLengths.isEmpty)

/-- A rehearsal leaves the windows of the device alone. -/
def WindowsStay (p : Device) : Prop := ∀ gs, p.groups = .ok gs → ∀ g ∈ gs, Unaltered p.config g

instance (p : Device) : Decidable p.WindowsStay :=
  inferInstanceAs (Decidable (∀ gs, p.groups = .ok gs → ∀ g ∈ gs, Unaltered p.config g))

/-- Devices whose pulses make the same rows. -/
structure Alike (q p : Device) : Prop where
  config : q.config = p.config
  rows : ∀ {given}, p.converted = .ok given → q.converted = .ok given
  phases : q.phaseLengths.isEmpty = p.phaseLengths.isEmpty
  windows : q.windowedAfter q.properties = p.windowedAfter p.properties

lemma Alike.of_pulses (config : q.config = p.config) (pulses : q.pulses = p.pulses)
    (phases : q.phaseLengths = p.phaseLengths) (windows : q.windowedAfter q.properties = p.windowedAfter p.properties) :
    Alike q p := by
  refine ⟨config, fun converted => ?_, congrArg List.isEmpty phases, windows⟩
  have placed := placed_of_converted converted
  have properties : q.properties = p.properties := congrArg (List.map Properties.ofPulse) pulses
  rw [← config, ← properties] at placed
  exact congrArg Prod.fst (rowsOf_eq_ok.mpr ⟨placed, rfl⟩)

lemma converted_of_prepare (prepared : answer (prepare p.properties) p b = .ok rows) :
    ∃ given, p.converted = .ok given := by
  obtain ⟨given, placed, -⟩ := prepare_ok prepared
  exact ⟨given, congrArg Prod.fst (rowsOf_eq_ok.mpr ⟨placed, rfl⟩)⟩

lemma mem_of_groups (defended : p.config.autoDefense = "True")
    (prepared : answer (prepare p.properties) p b = .ok rows) {gs : List (List Row)} (grouped : p.groups = .ok gs)
    {g : List Row} (member : g ∈ gs) : ∀ r ∈ g, r ∈ rows := by
  obtain ⟨given, converted⟩ := converted_of_prepare prepared
  rw [prepare_own converted] at prepared
  rcases Sequence.prepared_ok prepared with ⟨off, -⟩ | ⟨-, -, own, ogs, made, -, same, played, -, rfl⟩
  · have on : ({ p.sequence with windowed := p.windowedAfter p.properties } : Sequence).config.autoDefense = "True" :=
      defended
    rw [on] at off
    exact absurd off (by decide)
  · obtain rfl := Except.ok.inj same
    rw [Device.groups, converted, ok_bind] at grouped
    obtain rfl := Except.ok.inj (grouped.symm.trans played)
    exact fun r hr => mem_append_left _ (List.mem_flatten.mpr ⟨g, member, hr⟩)

lemma prepare_lenient (rehearsal : p.mode = .rehearsal) (live : q.mode = .live) (alike : Alike q p)
    (stay : p.WindowsStay) {b' : Bench} (prepared : answer (prepare p.properties) p b = .ok rows)
      (ordered : ∀ r ∈ rows, r.start ≤ r.stop) : answer (prepare q.properties) q b' = .ok rows := by
  obtain ⟨given, converted⟩ := converted_of_prepare prepared
  have tidy : p.config.autoDefense = "True" → p.windowedAfter p.properties = true → ∀ gs,
      grouped p.config (p.windowedAfter p.properties) (!p.phaseLengths.isEmpty) given = .ok gs →
      ∀ g ∈ gs, Sequence.Tidy p.config g := by
    intro defended _ gs made g hg
    have grouped : p.groups = .ok gs := by rw [Device.groups, converted, ok_bind, made]
    exact ⟨stay gs grouped g hg, fun r hr => ordered r (mem_of_groups defended prepared grouped hg r hr)⟩
  rw [prepare_own converted, Device.sequence, rehearsal] at prepared
  rw [prepare_own (alike.rows converted), Device.sequence, live, alike.config, alike.phases, alike.windows]
  exact Sequence.prepared_lenient _ tidy prepared

lemma programOf_lenient (rehearsal : p.mode = .rehearsal) (live : q.mode = .live) (alike : Alike q p)
    (stay : p.WindowsStay) {t : Int} (rehearsed : p.programOf p.properties t = .ok (some is))
    (lasting : ∀ i ∈ is, 0 < i.duration) : q.programOf q.properties t = .ok (some is) := by
  obtain ⟨rows, prepared, program⟩ := bind_eq_ok.mp rehearsed
  obtain ⟨-, front, assembled, -⟩ := Sequence.program_eq_ok program
  have ordered := Sequence.ordered_of_assemble assembled
  have sound : Sequence.Sound rows := fun r hr => ⟨(prepare_wired prepared).positive r hr, ordered r hr⟩
  have positive : 0 < p.config.timebase := Sequence.positive_of_lasting sound program lasting
  rw [Device.sequence, rehearsal] at program
  rw [programOf, prepare_lenient rehearsal live alike stay prepared ordered, ok_bind, Device.sequence, live, alike.config]
  exact Sequence.program_live_of_rehearsed ⟨p.config, .live, q.windowed, !q.phaseLengths.isEmpty⟩ positive sound program
    lasting

/-! ### The rows of an update -/

/-- With factory settings, what an update has been rehearsed with is what a live session plays: the same rows and the
same program. Where microwave pulses and windows come together, the windows have to be steady. -/
theorem rehearsed_rows_are_played (rehearsal : p.mode = .rehearsal) (factory : p.config = .factory)
    (waits : p.waiting = true) {b : Bench} (accepted : answer update p b = .ok ())
    (steady : ∀ gs, p.groups = .ok gs → ∀ g ∈ gs, Mixed 128 g → Steady 128 g) :
    ∃ rows t is, answer (prepare p.properties) p b = .ok rows ∧
      answer (prepare p.properties) { p with mode := .live } b = .ok rows ∧ period p.rate = .ok (some t) ∧
      p.programOf p.properties t = .ok (some is) ∧
      ({ p with mode := .live } : Device).programOf p.properties t = .ok (some is) := by
  obtain ⟨t, rate, ⟨idle, -⟩ | ⟨-, is, w, program, durations, -⟩⟩ := update_rehearsed rehearsal
    (show perform update p b = ((.ok (), _), _) from Prod.ext (Prod.ext accepted rfl) rfl)
  · rw [waits] at idle
    exact absurd idle (by decide)
  have alike : Alike { p with mode := .live } p := Alike.of_pulses rfl rfl rfl rfl
  have stay : p.WindowsStay := by
    intro gs grouped g hg
    rw [factory]
    exact unaltered_of_mixed Config.factory_awg (by decide) (steady gs grouped g hg)
  obtain ⟨rows, prepared, made⟩ := bind_eq_ok.mp program
  obtain ⟨-, front, assembled, -⟩ := Sequence.program_eq_ok made
  have lasting : ∀ i ∈ is, 0 < i.duration := fun i hi => lt_of_lt_of_le (by decide) (durations i hi)
  refine ⟨rows, t, is, ?_, ?_, rate, program, programOf_lenient rehearsal rfl alike stay program lasting⟩
  · obtain ⟨w, frame⟩ := prepare_frame p.properties p
    rw [answer, frame, prepared]
  · exact prepare_lenient rehearsal rfl alike stay prepared (Sequence.ordered_of_assemble assembled)

/-- A window that has been moved onto the end of a microwave pulse and stays there. -/
def adjoining : Device := holding [("P0", "MW", "300 ns", "20 ns"), ("P1", "AWG", "500 ns", "40 ns")]

theorem rows_of_an_adjoining_window : let group : List Row := [⟨8, 275, 285⟩, ⟨128, 285, 330⟩]
    adjoining.waiting = true ∧ answer update adjoining {} = .ok () ∧ adjoining.groups = .ok [group] ∧
      Mixed 128 group ∧ Steady 128 group ∧
      ∃ rows, answer (prepare adjoining.properties) adjoining {} = .ok rows ∧
        answer (prepare adjoining.properties) { adjoining with mode := .live } {} = .ok rows := by
  intro group
  have accepted : answer update adjoining {} = .ok () := by decide +kernel
  have grouped : adjoining.groups = .ok [group] := by decide +kernel
  have steady : Steady 128 group := by decide
  obtain ⟨rows, -, -, rehearsed, live, -⟩ := rehearsed_rows_are_played rfl rfl rfl accepted fun gs same g hg _ => by
    obtain rfl := Except.ok.inj (grouped.symm.trans same)
    rwa [mem_singleton.mp hg]
  exact ⟨rfl, accepted, grouped, by decide, steady, rows, rehearsed, live⟩

/-- A window that begins with the end of a microwave pulse of five ticks. -/
def following : Device := holding [("P0", "MW", "300 ns", "10 ns"), ("P1", "AWG", "490 ns", "40 ns")]

/-- The rehearsal clears the window once more and puts its start onto that of the microwave pulse. Its receiver pulse then
begins ten ticks after the one before it has ended, and stays by itself. In a live session it begins five ticks earlier,
and both are joined. -/
theorem rehearsed_rows_differ : answer update following {} = .ok () ∧
      answer (prepare following.properties) following {} =
        .ok [⟨8, 275, 280⟩, ⟨128, 280, 325⟩, ⟨2, 190, 215⟩, ⟨2, 270, 325⟩, ⟨4, 190, 265⟩, ⟨4, 275, 365⟩] ∧
      answer (prepare following.properties) { following with mode := .live } {} =
        .ok [⟨8, 275, 280⟩, ⟨128, 280, 325⟩, ⟨2, 190, 215⟩, ⟨2, 270, 325⟩, ⟨4, 190, 365⟩] :=
  ⟨by decide +kernel, by decide +kernel, by decide +kernel⟩

end Device

end EprBench.Pulser
