import EprBench.Proofs.Pulser.Clearing

/-! Protection rows before they are joined: which pulse each of them stands for and what it covers. -/
namespace EprBench.Pulser

open List Outcome

variable {mode : Mode} {phased windowed : Bool} {lo hi : Int}

/-! ### One row for each pulse -/

section Shields

variable {c : Config} {ofPulse ofWindow : Row → Outcome Row} {rows out : List Row}

lemma shieldRows_ok (made : shieldRows c ofPulse ofWindow rows = .ok out) :
    ∃ parts, out = parts.flatten ∧ Forall₂ (fun r part =>
      (∃ a, c.bit "MW" = .ok r.channel ∧ ofPulse r = .ok a ∧ part = [a]) ∨
      (∃ a, c.bit "MW" ≠ .ok r.channel ∧ c.bit "AWG" = .ok r.channel ∧ ofWindow r = .ok a ∧ part = [a]) ∨
      (c.bit "MW" ≠ .ok r.channel ∧ c.bit "AWG" ≠ .ok r.channel ∧ part = [])) rows parts := by
  obtain ⟨parts, each, made⟩ := bind_eq_ok.mp made
  refine ⟨parts, (pure_eq_ok.mp made).symm, (mapM_eq_ok each).imp fun r part made => ?_⟩
  obtain ⟨mw, hmw, made⟩ := bind_eq_ok.mp made
  rw [hmw]
  split at made
  · rename_i pulse
    obtain ⟨a, ha, made⟩ := bind_eq_ok.mp made
    exact .inl ⟨a, by rw [eq_of_beq pulse], ha, (pure_eq_ok.mp made).symm⟩
  · rename_i pulse
    have other : (Except.ok mw : Outcome Int) ≠ .ok r.channel := by
      rintro ⟨⟩
      simp at pulse
    obtain ⟨awg, hawg, made⟩ := bind_eq_ok.mp made
    rw [hawg]
    split at made
    · rename_i window
      obtain ⟨a, ha, made⟩ := bind_eq_ok.mp made
      exact .inr (Or.inl ⟨a, other, by rw [eq_of_beq window], ha, (pure_eq_ok.mp made).symm⟩)
    · rename_i window
      refine .inr (Or.inr ⟨other, ?_, (pure_eq_ok.mp made).symm⟩)
      rintro ⟨⟩
      simp at window

lemma shield_source (made : shieldRows c ofPulse ofWindow rows = .ok out) {a : Row} (member : a ∈ out) :
    ∃ r ∈ rows, (c.bit "MW" = .ok r.channel ∧ ofPulse r = .ok a) ∨ (c.bit "AWG" = .ok r.channel ∧ ofWindow r = .ok a) := by
  obtain ⟨parts, rfl, each⟩ := shieldRows_ok made
  obtain ⟨part, hp, ha⟩ := List.mem_flatten.mp member
  obtain ⟨r, hr, ⟨b, hmw, hb, rfl⟩ | ⟨b, -, hawg, hb, rfl⟩ | ⟨-, -, rfl⟩⟩ := exists_of_mem_right each hp
  · exact ⟨r, hr, Or.inl ⟨hmw, mem_singleton.mp ha ▸ hb⟩⟩
  · exact ⟨r, hr, Or.inr ⟨hawg, mem_singleton.mp ha ▸ hb⟩⟩
  · simp at ha

lemma shield_of_pulse (made : shieldRows c ofPulse ofWindow rows = .ok out) {r : Row} (member : r ∈ rows)
    (pulse : c.bit "MW" = .ok r.channel) : ∃ a ∈ out, ofPulse r = .ok a := by
  obtain ⟨parts, rfl, each⟩ := shieldRows_ok made
  obtain ⟨part, hp, ⟨a, -, ha, rfl⟩ | ⟨-, other, -⟩ | ⟨other, -, -⟩⟩ := exists_of_mem_left each member
  · exact ⟨a, List.mem_flatten.mpr ⟨[a], hp, mem_singleton_self a⟩, ha⟩
  · exact absurd pulse other
  · exact absurd pulse other

lemma shield_of_window (made : shieldRows c ofPulse ofWindow rows = .ok out) {r : Row} (member : r ∈ rows)
    (other : c.bit "MW" ≠ .ok r.channel) (window : c.bit "AWG" = .ok r.channel) : ∃ a ∈ out, ofWindow r = .ok a := by
  obtain ⟨parts, rfl, each⟩ := shieldRows_ok made
  obtain ⟨part, hp, ⟨-, pulse, -⟩ | ⟨a, -, -, ha, rfl⟩ | ⟨-, none, -⟩⟩ := exists_of_mem_left each member
  · exact absurd pulse other
  · exact ⟨a, List.mem_flatten.mpr ⟨[a], hp, mem_singleton_self a⟩, ha⟩
  · exact absurd window none

end Shields

variable {c : Config} {a : Row}

lemma amplifierRow_ok {start stop : Int} (made : amplifierRow c mode start stop = .ok a) :
    c.bit "AMP_ON" = .ok a.channel ∧ a.start = start ∧ a.stop = stop := by
  obtain ⟨-, -, made⟩ := bind_eq_ok.mp made
  obtain ⟨bit, hbit, made⟩ := bind_eq_ok.mp made
  rw [pure_eq_ok] at made
  subst made
  exact ⟨hbit, rfl, rfl⟩

lemma receiverRow_ok {start stop : Int} (made : receiverRow c start stop = .ok a) :
    c.bit "LNA_PROTECT" = .ok a.channel ∧ a.start = start ∧ a.stop = stop := by
  obtain ⟨bit, hbit, made⟩ := bind_eq_ok.mp made
  rw [pure_eq_ok] at made
  subst made
  exact ⟨hbit, rfl, rfl⟩

variable {own : Outcome (List (List Row))} {rows amp lna : List Row}

lemma cleared_ok {shields out : List Row}
    (made : cleared c phased own rows shields = .ok out) : ∃ phases, out = shields.map (Row.clearOf rows phases) := by
  obtain ⟨phases, -, made⟩ := bind_eq_ok.mp made
  exact ⟨phases, (pure_eq_ok.mp made).symm⟩

/-! ### Both protections -/

lemma protections_ok (made : protections c mode windowed phased own rows = .ok (amp, lna)) :
    ∃ on closed base phases phases', amplifierRows c mode rows = .ok on ∧ amp = on.map (Row.clearOf rows phases) ∧
      receiverBase c mode windowed rows = .ok base ∧ receiverRows c base = .ok closed ∧
      lna = closed.map (Row.clearOf base phases') := by
  obtain ⟨on, hon, made⟩ := bind_eq_ok.mp made
  obtain ⟨amp', hamp, made⟩ := bind_eq_ok.mp made
  obtain ⟨base, hbase, made⟩ := bind_eq_ok.mp made
  obtain ⟨closed, hclosed, made⟩ := bind_eq_ok.mp made
  obtain ⟨lna', hlna, made⟩ := bind_eq_ok.mp made
  obtain ⟨rfl, rfl⟩ := Prod.mk.inj (pure_eq_ok.mp made)
  obtain ⟨phases, rfl⟩ := cleared_ok hamp
  obtain ⟨phases', rfl⟩ := cleared_ok hlna
  exact ⟨on, closed, base, phases, phases', hon, rfl, hbase, hclosed, rfl⟩

lemma protections_channel (made : protections c mode windowed phased own rows = .ok (amp, lna)) :
    (∀ a ∈ amp, c.bit "AMP_ON" = .ok a.channel) ∧ ∀ a ∈ lna, c.bit "LNA_PROTECT" = .ok a.channel := by
  obtain ⟨on, closed, base, phases, phases', hon, rfl, -, hclosed, rfl⟩ := protections_ok made
  constructor
  · intro b hb
    obtain ⟨a, ha, rfl⟩ := mem_map.mp hb
    rw [Row.clearOf_channel]
    obtain ⟨r, -, ⟨-, h⟩ | ⟨-, h⟩⟩ := shield_source hon ha
    · exact (amplifierRow_ok h).1
    · exact (amplifierRow_ok h).1
  · intro b hb
    obtain ⟨a, ha, rfl⟩ := mem_map.mp hb
    rw [Row.clearOf_channel]
    obtain ⟨r, -, ⟨-, h⟩ | ⟨-, h⟩⟩ := shield_source hclosed ha
    · exact (receiverRow_ok h).1
    · exact (receiverRow_ok h).1

lemma receiverBase_widened {awg : Int} (bit : c.bit "AWG" = .ok awg)
    {base : List Row} (long : Long rows) (made : receiverBase c mode windowed rows = .ok base) :
    Widened awg rows base := by
  rw [receiverBase] at made
  split at made
  · exact rehearsedWindows_spec bit long made
  · rw [← Except.ok.inj made]
    exact Widened.refl awg rows

/-- All ticks from `lo` up to `hi` lie in `r`. -/
def Row.Spans (r : Row) (lo hi : Int) : Prop := r.start ≤ lo ∧ hi ≤ r.stop

lemma Row.Spans.within {r s : Row} (spans : r.Spans lo hi) (within : r.Within s) : s.Spans lo hi :=
  ⟨within.start.trans spans.1, spans.2.trans within.stop⟩

structure Shielded (c : Config) (mw awg : Int) (rows amp lna : List Row) : Prop where
  amp_source : ∀ a ∈ amp, ∃ r ∈ rows, (r.channel = mw ∧ a.Spans (r.start - c.switchDelay) (r.stop + c.ampDelay)) ∨
    (r.channel = awg ∧ a.Spans r.start r.stop)
  lna_source : ∀ a ∈ lna, ∃ r ∈ rows, (r.channel = mw ∧ a.Spans (r.start - c.switchDelay) (r.stop + c.protectDelay)) ∨
    (r.channel = awg ∧ a.Spans r.start (r.stop - c.windowTailTicks + c.protectWindowDelay))
  amp_pulse : ∀ r ∈ rows, r.channel = mw → ∃ a ∈ amp, a.Spans (r.start - c.switchDelay) (r.stop + c.ampDelay)
  amp_window : ∀ r ∈ rows, r.channel = awg → ∃ a ∈ amp, a.Spans r.start r.stop
  lna_pulse : ∀ r ∈ rows, r.channel = mw → ∃ a ∈ lna, a.Spans (r.start - c.switchDelay) (r.stop + c.protectDelay)

lemma spans_amplifier (made : amplifierRow c mode lo hi = .ok a) : a.Spans lo hi := by
  obtain ⟨-, rfl, rfl⟩ := amplifierRow_ok made
  exact ⟨le_refl _, le_refl _⟩

lemma spans_receiver (made : receiverRow c lo hi = .ok a) : a.Spans lo hi := by
  obtain ⟨-, rfl, rfl⟩ := receiverRow_ok made
  exact ⟨le_refl _, le_refl _⟩

lemma protections_shielded {mw awg : Int} (hmw : c.bit "MW" = .ok mw) (hawg : c.bit "AWG" = .ok awg)
    (distinct : mw ≠ awg) (long : Long rows)
    (made : protections c mode windowed phased own rows = .ok (amp, lna)) : Shielded c mw awg rows amp lna := by
  obtain ⟨on, closed, base, phases, phases', hon, rfl, hbase, hclosed, rfl⟩ := protections_ok made
  have widened := receiverBase_widened hawg long hbase
  have grown : ∀ a : Row, a.Within (Row.clearOf rows phases a) := Row.within_clearOf long phases
  have grown' : ∀ a : Row, a.Within (Row.clearOf base phases' a) := Row.within_clearOf (widened.long long) phases'
  have pulse : ∀ {r : Row}, r.channel = mw → c.bit "MW" = .ok r.channel := fun h => h ▸ hmw
  have isPulse : ∀ {r : Row}, c.bit "MW" = .ok r.channel → r.channel = mw := fun h =>
    Except.ok.inj (h.symm.trans hmw)
  have isWindow : ∀ {r : Row}, c.bit "AWG" = .ok r.channel → r.channel = awg := fun h =>
    Except.ok.inj (h.symm.trans hawg)
  refine ⟨?_, ?_, ?_, ?_, ?_⟩
  · intro b hb
    obtain ⟨a, ha, rfl⟩ := mem_map.mp hb
    obtain ⟨r, hr, ⟨h, made⟩ | ⟨h, made⟩⟩ := shield_source hon ha
    · exact ⟨r, hr, Or.inl ⟨isPulse h, (spans_amplifier made).within (grown a)⟩⟩
    · exact ⟨r, hr, Or.inr ⟨isWindow h, (spans_amplifier made).within (grown a)⟩⟩
  · intro b hb
    obtain ⟨a, ha, rfl⟩ := mem_map.mp hb
    obtain ⟨r', hr', made⟩ := shield_source hclosed ha
    obtain ⟨r, hr, within, -⟩ := exists_of_mem_right widened hr'
    have channel := within.channel
    have start := within.start
    have stop := within.stop
    rcases made with ⟨h, made⟩ | ⟨h, made⟩
    · have spans := (spans_receiver made).within (grown' a)
      refine ⟨r, hr, Or.inl ⟨channel ▸ isPulse h, ?_, ?_⟩⟩
      · have := spans.1
        omega
      · have := spans.2
        omega
    · have spans := (spans_receiver made).within (grown' a)
      refine ⟨r, hr, Or.inr ⟨channel ▸ isWindow h, spans.1.trans start, ?_⟩⟩
      have := spans.2
      omega
  · intro r hr channel
    obtain ⟨a, ha, made⟩ := shield_of_pulse hon hr (pulse channel)
    exact ⟨_, mem_map_of_mem ha, (spans_amplifier made).within (grown a)⟩
  · intro r hr channel
    have other : c.bit "MW" ≠ .ok r.channel := fun h => distinct ((isPulse h).symm.trans channel)
    obtain ⟨a, ha, made⟩ := shield_of_window hon hr other (channel ▸ hawg)
    exact ⟨_, mem_map_of_mem ha, (spans_amplifier made).within (grown a)⟩
  · intro r hr channel
    obtain ⟨r', hr', -, same⟩ := exists_of_mem_left widened hr
    obtain rfl : r' = r := same fun h => distinct (channel.symm.trans h)
    obtain ⟨a, ha, made⟩ := shield_of_pulse hclosed hr' (pulse channel)
    exact ⟨_, mem_map_of_mem ha, (spans_receiver made).within (grown' a)⟩

end EprBench.Pulser
