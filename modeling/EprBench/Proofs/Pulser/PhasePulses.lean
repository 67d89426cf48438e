import EprBench.Proofs.Pulser.UpToDate

/-! The pulses that set phases. They stand after the declared ones; a step of the phase cycle takes out those of the
step before and adds those that the declared phases ask for. -/
namespace EprBench.Pulser

open Device List Outcome

lemma Pulse.isPhase_congr {q r : Pulse} (same : q.tag = r.tag) : q.isPhase = r.isPhase := by
  have channel : q.channel = r.channel := congrArg (fun t => t.2.1) same
  rw [Pulse.isPhase, channel]
  rfl

namespace Device

/-- The pulses that a script has declared, where there is a name for each of them. -/
def own (p : Device) : List Pulse := p.pulses.take p.names.length

def made (p : Device) : List Pulse := p.pulses.drop p.names.length

lemma own_append_made (p : Device) : p.own ++ p.made = p.pulses := take_append_drop _ _

structure Booked (ps : List Pulse) (p : Device) : Prop where
  names : p.names = ps.map Pulse.name
  declared : p.declared.map Pulse.tag = ps.map Pulse.tag
  own : p.own.map Pulse.tag = ps.map Pulse.tag
  made : ∀ q ∈ p.made, q.isPhase = true
  counted : p.made = [] ∨ p.made.length = p.phasePulses

variable {ps : List Pulse} {p p' : Device}

lemma Booked.length (booked : Booked ps p) : p.names.length = ps.length := by rw [booked.names, length_map]

lemma Booked.follows (booked : Booked ps p) (follows : Follows p p') : Booked ps p' := by
  have own : p'.own.map Pulse.tag = (p'.pulses.map Pulse.tag).take p.names.length := by
    rw [Device.own, follows.names, map_take]
  have made : p'.made.map Pulse.tag = (p'.pulses.map Pulse.tag).drop p.names.length := by
    rw [Device.made, follows.names, map_drop]
  rcases follows.tags with same | back
  · replace own : p'.own.map Pulse.tag = p.own.map Pulse.tag := by rw [own, same, ← map_take, Device.own]
    replace made : p'.made.map Pulse.tag = p.made.map Pulse.tag := by rw [made, same, ← map_drop, Device.made]
    refine ⟨follows.names.trans booked.names, follows.declared ▸ booked.declared, own.trans booked.own, ?_, ?_⟩
    · intro q member
      obtain ⟨r, set, tag⟩ := mem_map.mp (made ▸ mem_map_of_mem member)
      rw [← Pulse.isPhase_congr tag]
      exact booked.made r set
    · have length : p'.made.length = p.made.length := by
        simpa only [length_map] using congrArg List.length made
      rw [follows.phasePulses, length]
      refine booked.counted.imp_left fun none => eq_nil_of_length_eq_zero ?_
      rw [length, none, length_nil]
  · have short : (p.declared.map Pulse.tag).length ≤ p.names.length := by
      rw [booked.declared, booked.length, length_map]
    rw [back, take_of_length_le short] at own
    rw [back, drop_eq_nil_of_le short, map_eq_nil_iff] at made
    refine ⟨follows.names.trans booked.names, follows.declared ▸ booked.declared, own.trans booked.declared, ?_, Or.inl made⟩
    rw [made]
    simp

/-! ### Calls that leave the books alone -/

def SameBooks (u v : Device × Bench) : Prop := v.1.pulses = u.1.pulses ∧ v.1.ledger = u.1.ledger

instance : IsPreorder (Device × Bench) SameBooks where
  refl _ := ⟨rfl, rfl⟩
  trans _ _ _ first second := ⟨second.1.trans first.1, second.2.trans first.2⟩

lemma SameBooks.follows {b b' : Bench} (same : SameBooks (p, b) (p', b')) : Follows p p' :=
  ⟨same.2, Or.inl (congrArg _ same.1)⟩

instance {α : Type} (x : Work α) : Obeys SameBooks (liftM x : Act Device α) := ⟨fun _ _ => ⟨rfl, rfl⟩⟩

instance (f : Device → Device) [pulses : ∀ p, Untouched (f p).pulses p.pulses] [ledger : ∀ p, Untouched (f p).ledger p.ledger] :
    Obeys SameBooks (modify f : Act Device PUnit) := ⟨fun p => .modify fun _ => ⟨(pulses p).eq, (ledger p).eq⟩⟩

instance (qs : List Properties) : Obeys SameBooks (prepare qs) := by
  dsimp only [prepare, convertPulses]
  infer_instance

instance {α : Type} : Obeys SameBooks (refuseLong : Act Device α) :=
  Obeys.seq inferInstance fun p => by cases p.mode <;> infer_instance

instance (qs : List Properties) (t : Int) : Obeys SameBooks (programFor qs t) := by
  have made : ∀ is : Option (List Instruction), Obeys SameBooks (match is with | some is => pure is | none => refuseLong)
    | some _ | none => inferInstance
  dsimp only [programFor]
  infer_instance

instance (settle : Device → Device) [Obeys SameBooks (modify settle : Act Device PUnit)] (toZero : Bool) (time : Option Int) :
    Obeys SameBooks (play toZero settle time) := by
  have counted : Obeys SameBooks countUpdate := Obeys.seq inferInstance fun p => by cases p.updates <;> infer_instance
  cases time <;> dsimp only [play, currentProgram] <;> infer_instance

instance : Obeys SameBooks (modify settle : Act Device PUnit) := ⟨fun _ _ => ⟨rfl, rfl⟩⟩

instance : Obeys SameBooks (modify settleReset : Act Device PUnit) := ⟨fun _ _ => ⟨rfl, rfl⟩⟩

instance sameBooks_update : Obeys SameBooks update := by
  refine Obeys.seq inferInstance fun p => Obeys.seq inferInstance fun time => ?_
  cases p.mode <;> cases time <;> dsimp only [rehearse, record] <;> infer_instance

instance : Obeys SameBooks visualize := by
  dsimp only [visualize]
  infer_instance

instance (flag file : Value) : Obeys SameBooks (useFile flag file) := by
  cases file <;> dsimp only [useFile] <;> infer_instance

def ReadsRate (p : Device) : Prop := ∃ time, period p.rate = .ok time ∧ (p.mode = .rehearsal → time.isSome = true)

lemma readsRate_of_reset {cycle : Value} {b b' : Bench} (done : perform (reset cycle) p b = ((.ok (), p'), b')) :
    p.ReadsRate := by
  rw [reset, perform_get_bind, perform_bind, perform_lift] at done
  rcases rate : period p.rate with e | time
  · rw [rate] at done
    simp at done
  · refine ⟨time, rate, fun mode => ?_⟩
    rw [rate, proceed_ok, mode] at done
    cases time with
    | none => simp at done
    | some t => rfl

lemma sameBooks_reset (reads : p.ReadsRate) (cycle : Value) (b : Bench) :
    SameBooks ({ p with pulses := p.declared }, b) ((perform (reset cycle) p b).1.2, (perform (reset cycle) p b).2) := by
  obtain ⟨time, rate, known⟩ := reads
  rw [reset, perform_get_bind, perform_bind, perform_lift, rate, proceed_ok]
  cases mode : p.mode with
  | live =>
    dsimp only
    rw [perform_modify_bind]
    have counted : Obeys SameBooks (restartCount cycle) := by
      dsimp only [restartCount]
      infer_instance
    exact (Obeys.bind (R := SameBooks) (restartCount cycle) _).within _ b
  | rehearsal =>
    obtain ⟨t, rfl⟩ := Option.isSome_iff_exists.mp (known mode)
    dsimp only
    rw [perform_modify_bind]
    have rehearsed : Obeys SameBooks (do
        let _ ← programFor (p.declared.map .ofPulse) t
        modify settleReset) := inferInstance
    exact rehearsed.within _ b

lemma reset_follows {cycle : Value} {b b' : Bench} (done : perform (reset cycle) p b = ((.ok (), p'), b')) :
    Follows p p' := by
  have back : Follows p { p with pulses := p.declared } := ⟨rfl, Or.inr rfl⟩
  have kept := sameBooks_reset (readsRate_of_reset done) cycle b
  rw [done] at kept
  exact back.trans kept.follows

end Device

variable {mode : Mode} {q : Pulse} {v : Value} {c : Config} {index : Nat}

/-! ### Times -/

def wholeTime (v : Value) : Outcome Int := do
  let words ← v.pieces ' '
  let unit ← pick words 1
  match unitLengths.lookup unit with
  | some k => return (← Value.intOfText (← pick words 0)) * k
  | none => throw .wrongValue

def inNanoseconds (n : Int) : Value := .text (Decimal.intText n ++ " ns")

lemma moved_eq {time : Value} {d : Int} {s : String} (done : moved mode time (.int d) = .ok s) :
    ∃ n, wholeTime time = .ok n ∧ Value.text s = inNanoseconds (n + d) := by
  obtain ⟨words, cut, done⟩ := bind_eq_ok.mp done
  obtain ⟨unit, second, done⟩ := bind_eq_ok.mp done
  split at done
  · rename_i k known
    obtain ⟨first, here, done⟩ := bind_eq_ok.mp done
    obtain ⟨n, read, done⟩ := bind_eq_ok.mp done
    refine ⟨n * k, ?_, congrArg Value.text (Except.ok.inj done).symm⟩
    rw [wholeTime, cut, ok_bind, second, ok_bind, known]
    show (pick words 0 >>= fun w => Value.intOfText w >>= fun n => pure (n * k)) = _
    rw [here, ok_bind, read]
    rfl
  · cases mode <;> simp at done

/-! ### Phases -/

def channelsAsked : Value → List String
  | .text "-x" => ["-X"]
  | .text "+y" => ["+Y"]
  | .text "-y" => ["-X", "+Y"]
  | _ => []

lemma isPhase_of_channelsAsked {phase : Value} {channel : String} (asked : channel ∈ channelsAsked phase)
    (set : q.channel = .text channel) : q.isPhase = true := by
  have listed : channel = "-X" ∨ channel = "+Y" := by
    unfold channelsAsked at asked
    split at asked <;> simp_all
  rw [Pulse.isPhase, set]
  rcases listed with rfl | rfl
  · rfl
  · rfl

lemma choice_some {α : Type} {table : List (String × α)} {x : α} (chosen : v.choice table = .ok (some x)) :
    ∃ name, (name, x) ∈ table ∧ v = .text name := by
  induction table with
  | nil => simp [Value.choice] at chosen
  | cons entry table ih =>
    obtain ⟨here, equal, chosen⟩ := bind_eq_ok.mp chosen
    cases here with
    | true =>
      obtain rfl : entry.2 = x := by simpa using chosen
      exact ⟨entry.1, mem_cons_self, eq_text_of_equals equal⟩
    | false =>
      obtain ⟨name, member, same⟩ := ih chosen
      exact ⟨name, mem_cons_of_mem _ member, same⟩

lemma choice_none {α : Type} {table : List (String × α)} (chosen : v.choice table = .ok none) :
    ∀ entry ∈ table, v ≠ .text entry.1 := by
  induction table with
  | nil => simp
  | cons entry table ih =>
    obtain ⟨here, equal, chosen⟩ := bind_eq_ok.mp chosen
    cases here with
    | true => simp at chosen
    | false =>
      refine forall_mem_cons.mpr ⟨?_, ih chosen⟩
      rintro rfl
      rw [equals_text, beq_self_eq_true] at equal
      simp at equal

lemma channelsAsked_eq {phase : Value} {found : Option (String × List String)}
    (chosen : phase.choice (phaseChannels.map fun e => (e.1, e)) = .ok found) :
    channelsAsked phase = found.elim [] Prod.snd := by
  cases found with
  | some entry =>
    obtain ⟨name, member, rfl⟩ := choice_some chosen
    have asked : ∀ e ∈ phaseChannels.map fun e => (e.1, e), channelsAsked (.text e.1) = e.2.2 := by decide
    exact asked (name, entry) member
  | none =>
    have other := choice_none chosen
    unfold channelsAsked
    split
    · exact absurd rfl (other ("-x", "-x", ["-X"]) (by decide))
    · exact absurd rfl (other ("+y", "+y", ["+Y"]) (by decide))
    · exact absurd rfl (other ("-y", "-y", ["-X", "+Y"]) (by decide))
    · rfl

/-! ### Steps of the phase cycle -/

def Surrounds (lead tail : Int) (q r : Pulse) : Prop :=
  ∃ start length, wholeTime q.start = .ok start ∧ wholeTime q.length = .ok length ∧
    r.start = inNanoseconds (start - lead) ∧ r.length = inNanoseconds (start + length + tail - (start - lead))

def Sets (c : Config) (index : Nat) (q : Pulse) (set : List Pulse) : Prop :=
  q.phases.items = .ok [] ∧ set = [] ∨
    ∃ phase, q.phases.nth index = .ok phase ∧ set.map Pulse.channel = (channelsAsked phase).map .text ∧
      ∀ r ∈ set, Surrounds c.switchPhaseDelay c.phaseDelay q r

lemma Sets.isPhase {set : List Pulse} (sets : Sets c index q set) : ∀ r ∈ set, r.isPhase = true := by
  intro r member
  rcases sets with ⟨-, rfl⟩ | ⟨phase, -, channels, -⟩
  · simp at member
  · obtain ⟨channel, asked, same⟩ := mem_map.mp (channels ▸ mem_map_of_mem member)
    exact isPhase_of_channelsAsked asked same.symm

lemma sets_phasePulses {set : Option (List Pulse)}
    (done : phasePulses c mode index q = .ok set) : Sets c index q (set.getD []) := by
  obtain ⟨phases, items, done⟩ := bind_eq_ok.mp done
  split at done
  · rename_i empty
    rw [List.isEmpty_iff] at empty
    rw [pure_eq_ok] at done
    exact .inl ⟨empty ▸ items, done ▸ rfl⟩
  obtain ⟨phase, here, done⟩ := bind_eq_ok.mp done
  obtain ⟨found, chosen, done⟩ := bind_eq_ok.mp done
  have asked := channelsAsked_eq chosen
  refine .inr ⟨phase, here, ?_⟩
  split at done
  · obtain ⟨_, -, done⟩ := bind_eq_ok.mp done
    rw [pure_eq_ok] at done
    rw [asked, ← done]
    simp
  · rw [pure_eq_ok] at done
    rw [asked, ← done]
    simp
  · obtain ⟨start, begun, done⟩ := bind_eq_ok.mp done
    obtain ⟨length, lasting, done⟩ := bind_eq_ok.mp done
    rw [pure_eq_ok] at done
    obtain ⟨from', read, start⟩ := moved_eq begun
    obtain ⟨span, read', length⟩ := moved_eq lasting
    rw [asked, ← done]
    refine ⟨by simp [phasePulse, Function.comp_def], fun r member => ⟨from', span, read, read', ?_⟩⟩
    obtain ⟨channel, -, rfl⟩ := mem_map.mp member
    refine ⟨start, length.trans (congrArg inNanoseconds ?_)⟩
    ring
  · simp at done

lemma fault_foldl {ps : List Pulse} {s : PhaseStep}
    (fine : (ps.foldl (PhaseStep.add c mode index) s).fault = none) : s.fault = none := by
  induction ps generalizing s with
  | nil => exact fine
  | cons q ps ih =>
    have added := ih fine
    rw [PhaseStep.add] at added
    split at added
    · exact added
    · assumption

lemma sets_foldl {ps : List Pulse} {s : PhaseStep} (fine : (ps.foldl (PhaseStep.add c mode index) s).fault = none) :
    ∃ sets, Forall₂ (Sets c index) ps sets ∧
      (ps.foldl (PhaseStep.add c mode index) s).added = s.added ++ sets.flatten := by
  induction ps generalizing s with
  | nil => exact ⟨[], .nil, by simp⟩
  | cons q ps ih =>
    obtain ⟨sets, each, added⟩ := ih fine
    -- A fault is never taken back, so there was none before this pulse and none after it.
    have before : s.fault = none := fault_foldl fine
    have here : (s.add c mode index q).fault = none := fault_foldl (s := s.add c mode index q) fine
    rw [foldl_cons, added]
    rcases set : phasePulses c mode index q with e | qs
    · simp [PhaseStep.add, before, set] at here
    · refine ⟨qs.getD [] :: sets, .cons (sets_phasePulses set) each, ?_⟩
      have taken : (s.add c mode index q).added = s.added ++ qs.getD [] := by
        rw [PhaseStep.add, before, set]
        cases qs with
        | none => simp [PhaseStep.take]
        | some qs => rfl
      rw [taken, flatten_cons, append_assoc]

/-! ### The pulses of the step before -/

lemma dropPhases_append {own set : List Pulse} (plain : ∀ q ∈ own, q.isPhase = false)
    (phases : ∀ q ∈ set, q.isPhase = true) (n : Nat) : dropPhases n (own ++ set) = own ++ set.drop n := by
  induction n generalizing set with
  | zero => rfl
  | succ n ih =>
    have past : (own ++ set).eraseP Pulse.isPhase = own ++ set.eraseP Pulse.isPhase :=
      eraseP_append_right _ fun q member => by simp [plain q member]
    rw [dropPhases, past]
    cases set with
    | nil => simpa using ih phases
    | cons q set =>
      obtain ⟨here, later⟩ := forall_mem_cons.mp phases
      rw [eraseP_cons_of_pos here, drop_succ_cons, ih later]

namespace Device

variable {ps : List Pulse} {p : Device}

/-- Either no pulse of a step before is looked for, or no declared pulse can be taken for one. -/
def PhasesApart (p : Device) : Prop := p.phasePulses = 0 ∨ p.declared.any Pulse.isPhase = false

instance : DecidablePred PhasesApart :=
  fun p => inferInstanceAs (Decidable (p.phasePulses = 0 ∨ p.declared.any Pulse.isPhase = false))

lemma Booked.dropPhases (booked : Booked ps p) (apart : p.PhasesApart) : dropPhases p.phasePulses p.pulses = p.own := by
  -- As many pulses are taken out as there were made.
  have gone : p.made.drop p.phasePulses = [] := by
    rcases booked.counted with none | length
    · rw [none, drop_nil]
    · exact drop_eq_nil_of_le length.le
  rcases apart with none | plain
  · rw [none, drop_zero] at gone
    rw [none, ← own_append_made, gone, append_nil]
    rfl
  · have own : ∀ q ∈ p.own, q.isPhase = false := by
      intro q member
      obtain ⟨r, declared, tag⟩ := mem_map.mp (booked.own.trans booked.declared.symm ▸ mem_map_of_mem member)
      rw [← Pulse.isPhase_congr tag]
      exact Bool.eq_false_iff.mpr (any_eq_false.mp plain r declared)
    rw [← own_append_made, dropPhases_append own booked.made, gone, append_nil]

lemma Booked.pulses_withPhase (booked : Booked ps p) (apart : p.PhasesApart) (fine : p.nextStep.fault = none) :
    ∃ sets, Forall₂ (Sets p.config p.phaseIndex) p.own sets ∧ p.withPhase.pulses = p.own ++ sets.flatten ∧
      p.withPhase.phasePulses = sets.flatten.length := by
  have kept := booked.dropPhases apart
  rw [nextStep, kept] at fine
  obtain ⟨sets, each, added⟩ := sets_foldl fine
  have step : p.nextStep.added = sets.flatten := by
    rw [nextStep, kept]
    exact added
  refine ⟨sets, each, ?_, congrArg List.length step⟩
  rw [withPhase, kept, step]

lemma isPhase_of_mem_flatten {own : List Pulse} {sets : List (List Pulse)}
    (each : Forall₂ (Sets c index) own sets) : ∀ q ∈ sets.flatten, q.isPhase = true := by
  induction each with
  | nil => simp
  | cons here _ ih =>
    intro q member
    rcases mem_append.mp (flatten_cons ▸ member) with first | later
    · exact here.isPhase q first
    · exact ih q later

lemma Booked.length_own (booked : Booked ps p) : p.own.length = p.names.length := by
  rw [booked.length, ← length_map Pulse.tag, booked.own, length_map]

lemma Booked.withPhase (booked : Booked ps p) (apart : p.PhasesApart) (fine : p.nextStep.fault = none) :
    Booked ps p.withPhase := by
  obtain ⟨sets, each, pulses, count⟩ := booked.pulses_withPhase apart fine
  have own : p.withPhase.own = p.own := by
    rw [Device.own, pulses]
    exact List.take_left' booked.length_own
  have made : p.withPhase.made = sets.flatten := by
    rw [Device.made, pulses]
    exact List.drop_left' booked.length_own
  refine ⟨booked.names, booked.declared, own ▸ booked.own, ?_, Or.inr ?_⟩
  · rw [made]
    exact isPhase_of_mem_flatten each
  · rw [made, count]

end Device

end EprBench.Pulser
