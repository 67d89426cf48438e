import EprBench.Proofs.Pulser.Defended

/-! Protection is complete: the amplifier is on and the receiver is closed in all of the time around a microwave
pulse. -/
namespace EprBench.Pulser

open List

variable {lo hi : Int} {c : Config} {name : String}

/-- Some row of the named channel is on at every tick from `lo` up to `hi`. -/
def Covered (c : Config) (name : String) (rows : List Row) (lo hi : Int) : Prop :=
  ∀ t, lo ≤ t → t < hi → ∃ r ∈ rows, c.bit name = .ok r.channel ∧ r.active t = true

variable {r : Row}

lemma Row.Spans.active (spans : r.Spans lo hi) {t : Int} (after : lo ≤ t) (before : t < hi) : r.active t = true :=
  Row.active_iff.mpr ⟨spans.1.trans after, lt_of_lt_of_le before spans.2⟩

variable {rows given phases : List Row}

lemma Covered.append_left
    (covered : Covered c name rows lo hi) (front : List Row) : Covered c name (front ++ rows) lo hi := by
  intro t after before
  obtain ⟨r, hr, on⟩ := covered t after before
  exact ⟨r, mem_append_right _ hr, on⟩

lemma Covered.append_right
    (covered : Covered c name rows lo hi) (back : List Row) : Covered c name (rows ++ back) lo hi := by
  intro t after before
  obtain ⟨r, hr, on⟩ := covered t after before
  exact ⟨r, mem_append_left _ hr, on⟩

lemma covered_of_mended {mode : Mode} {out : List Row}
    (bits : ∀ r ∈ rows, c.bit name = .ok r.channel) (made : mended c mode name rows = .ok out) {a : Row}
    (member : a ∈ rows) (spans : a.Spans lo hi) : Covered c name out lo hi := by
  obtain ⟨n, channel, -⟩ := bit_eq_ok (bits a member)
  intro t after before
  obtain ⟨s, hs, on⟩ := mended_covers channel made member (spans.active after before)
  exact ⟨s, hs, mended_bit bits made s hs, on⟩

variable {awg mw : Int}

lemma long_drivenRows (long : Long given) : Long (drivenRows mw awg phases given) := by
  have pulses : Long (onChannel mw given) := fun r hr => long r (mem_onChannel.mp hr).1
  have windows : Long (onChannel awg given) := fun r hr => long r (mem_onChannel.mp hr).1
  intro r hr
  rcases mem_append.mp hr with pulse | window
  · exact pulses r pulse
  · split at window
    · exact windows r window
    · obtain ⟨q, hq, rfl⟩ := mem_map.mp window
      exact (windows q hq).trans (Row.within_clearOf pulses phases q).length_le

lemma mem_drivenRows_pulse (distinct : mw ≠ awg)
    (pulse : r.channel = mw) : r ∈ drivenRows mw awg phases given ↔ r ∈ given := by
  have foreign : ∀ q : Row, q ∈ onChannel awg given → q.channel ≠ mw := fun q hq h =>
    distinct (h.symm.trans (mem_onChannel.mp hq).2)
  rw [drivenRows, mem_append, or_iff_left, mem_onChannel, and_iff_left pulse]
  intro window
  split at window
  · exact foreign r window pulse
  · obtain ⟨q, hq, rfl⟩ := mem_map.mp window
    rw [Row.clearOf_channel] at pulse
    exact foreign q hq pulse

lemma exists_window (long : Long given) (member : r ∈ given)
    (window : r.channel = awg) : ∃ w ∈ drivenRows mw awg phases given, r.Within w := by
  have here : r ∈ onChannel awg given := mem_onChannel.mpr ⟨member, window⟩
  rw [drivenRows]
  split
  · exact ⟨r, mem_append_right _ here, Row.Within.refl r⟩
  · exact ⟨_, mem_append_right _ (mem_map_of_mem here),
      Row.within_clearOf (fun q hq => long q (mem_onChannel.mp hq).1) phases r⟩

lemma Regrouped.flatten_perm {gs others : List (List Row)} (regrouped : Regrouped mw awg phases given gs others) :
    gs.flatten.Perm (others.flatten ++ drivenRows mw awg phases given) := by
  obtain ⟨front, back, rfl, rfl⟩ := regrouped.split
  split
  · rename_i none
    simp [none]
  · simp only [flatten_append, flatten_cons, flatten_nil, append_nil, append_assoc]
    exact Perm.append_left _ perm_append_comm

lemma Regrouped.mem_flatten {gs others : List (List Row)} (regrouped : Regrouped mw awg phases given gs others) :
    r ∈ gs.flatten ↔ r ∈ others.flatten ∨ r ∈ drivenRows mw awg phases given := by
  rw [regrouped.flatten_perm.mem_iff, mem_append]

namespace Sequence

variable {s : Sequence} {mw awg : Int} {phases given rows : List Row} {gs others : List (List Row)}

lemma Defended.mem_driven (defended : Defended s mw awg phases given gs others rows)
    (apart : ∀ name ∈ ["AMP_ON", "LNA_PROTECT"], s.config.bit name ≠ .ok mw ∧ s.config.bit name ≠ .ok awg) {r : Row}
    (driven : r.channel = mw ∨ r.channel = awg) : r ∈ rows ↔ r ∈ drivenRows mw awg phases given := by
  have own : r ∈ gs.flatten ↔ r ∈ drivenRows mw awg phases given := by
    rw [defended.regrouped.mem_flatten, or_iff_right]
    intro other
    obtain ⟨g, hg, hr⟩ := List.mem_flatten.mp other
    exact not_or.mpr (defended.regrouped.channel g hg r hr) driven
  have foreign : ∀ name ∈ ["AMP_ON", "LNA_PROTECT"], s.config.bit name ≠ .ok r.channel := by
    intro name member
    rcases driven with h | h
    · rw [h]
      exact (apart name member).1
    · rw [h]
      exact (apart name member).2
  rcases defended.shields with ⟨-, rfl⟩ | ⟨-, amp, lna, on, closed, shielded, rfl⟩
  · exact own
  · rw [mem_append, own, or_iff_left]
    intro member
    rcases mem_append.mp member with member | member
    · exact foreign "AMP_ON" (by simp) (shielded.bits.1 r member)
    · exact foreign "LNA_PROTECT" (by simp) (shielded.bits.2 r member)

lemma Defended.covers (hmw : s.config.bit "MW" = .ok mw) (hawg : s.config.bit "AWG" = .ok awg) (distinct : mw ≠ awg)
    (long : Long given) (defended : Defended s mw awg phases given gs others rows) :
    ∀ r ∈ drivenRows mw awg phases given,
      (r.channel = mw → Covered s.config "AMP_ON" rows (r.start - s.config.switchDelay) (r.stop + s.config.ampDelay) ∧
        Covered s.config "LNA_PROTECT" rows (r.start - s.config.switchDelay) (r.stop + s.config.protectDelay)) ∧
      (r.channel = awg → Covered s.config "AMP_ON" rows r.start r.stop) := by
  intro r hr
  rcases defended.shields with ⟨none, -⟩ | ⟨-, amp, lna, on, closed, shielded, rfl⟩
  · rw [none] at hr
    simp at hr
  obtain ⟨ampBits, lnaBits⟩ := protections_channel shielded.shields
  have spec := protections_shielded hmw hawg distinct (long_drivenRows long) shielded.shields
  have amplifier : ∀ {a : Row}, a ∈ amp → ∀ {lo hi : Int}, a.Spans lo hi →
      Covered s.config "AMP_ON" (gs.flatten ++ (on ++ closed)) lo hi := fun member _ _ spans =>
    ((covered_of_mended ampBits shielded.amplifier member spans).append_right closed).append_left gs.flatten
  have receiver : ∀ {a : Row}, a ∈ lna → ∀ {lo hi : Int}, a.Spans lo hi →
      Covered s.config "LNA_PROTECT" (gs.flatten ++ (on ++ closed)) lo hi := fun member _ _ spans =>
    ((covered_of_mended lnaBits shielded.receiver member spans).append_left on).append_left gs.flatten
  refine ⟨fun pulse => ?_, fun window => ?_⟩
  · obtain ⟨a, ha, spans⟩ := spec.amp_pulse r hr pulse
    obtain ⟨l, hl, spans'⟩ := spec.lna_pulse r hr pulse
    exact ⟨amplifier ha spans, receiver hl spans'⟩
  · obtain ⟨a, ha, spans⟩ := spec.amp_window r hr window
    exact amplifier ha spans

end Sequence

namespace Device

variable {p : Device} {given rows : List Row}

/-- With the settings of the factory and pulses of at least five ticks, every microwave pulse is played as it was
declared and every window at least as long as it was declared; the amplifier is on and the receiver is closed from the
switch delay before a microwave pulse to their own delays after it, and the amplifier is on in all of every window. -/
theorem protection_is_complete (factory : p.config = .factory) (converted : p.converted = .ok given) (long : Long given)
    {b : Bench} (prepared : answer (prepare p.properties) p b = .ok rows) :
    (∀ r ∈ rows, p.config.bit "MW" = .ok r.channel →
      Covered p.config "AMP_ON" rows (r.start - p.config.switchDelay) (r.stop + p.config.ampDelay) ∧
      Covered p.config "LNA_PROTECT" rows (r.start - p.config.switchDelay) (r.stop + p.config.protectDelay)) ∧
    (∀ r ∈ rows, p.config.bit "AWG" = .ok r.channel → Covered p.config "AMP_ON" rows r.start r.stop) ∧
    (∀ r, p.config.bit "MW" = .ok r.channel → (r ∈ rows ↔ r ∈ given)) ∧
    (∀ r ∈ given, p.config.bit "AWG" = .ok r.channel → ∃ w ∈ rows, r.Within w) := by
  obtain ⟨phases, gs, others, defended⟩ := defended factory converted prepared
  have hmw : p.config.bit "MW" = .ok 8 := by rw [factory]; rfl
  have hawg : p.config.bit "AWG" = .ok 128 := by rw [factory]; rfl
  have pulse : ∀ {r : Row}, p.config.bit "MW" = .ok r.channel → r.channel = 8 := fun h =>
    Except.ok.inj (h.symm.trans hmw)
  have window : ∀ {r : Row}, p.config.bit "AWG" = .ok r.channel → r.channel = 128 := fun h =>
    Except.ok.inj (h.symm.trans hawg)
  have apart : ∀ name ∈ ["AMP_ON", "LNA_PROTECT"], p.config.bit name ≠ .ok 8 ∧ p.config.bit name ≠ .ok 128 := by
    rw [factory]
    decide +kernel
  have driven : ∀ {r : Row}, r.channel = 8 ∨ r.channel = 128 → (r ∈ rows ↔ r ∈ drivenRows 8 128 phases given) :=
    defended.mem_driven apart
  have covers := defended.covers hmw hawg (by decide) long
  refine ⟨?_, ?_, ?_, ?_⟩
  · intro r hr h
    exact (covers r ((driven (Or.inl (pulse h))).mp hr)).1 (pulse h)
  · intro r hr h
    exact (covers r ((driven (Or.inr (window h))).mp hr)).2 (window h)
  · intro r h
    rw [driven (Or.inl (pulse h)), mem_drivenRows_pulse (by decide) (pulse h)]
  · intro r hr h
    obtain ⟨w, hw, within⟩ := exists_window (fun q hq => long q hq) hr (window h)
    exact ⟨w, (driven (Or.inr (by rw [within.channel, window h]))).mpr hw, within⟩

/-- Two microwave pulses so close that the second one's amplifier pulse begins before the first one. -/
def closePulses : Device :=
  holding [("P0", "AWG", "900 ns", "100 ns"), ("P1", "MW", "100 ns", "20 ns"), ("P2", "MW", "220 ns", "40 ns"),
    ("P3", "TRIGGER", "1400 ns", "100 ns")]

theorem protection_of_close_pulses :
    let given : List Row := [⟨1, 825, 875⟩, ⟨8, 175, 185⟩, ⟨8, 235, 255⟩, ⟨128, 490, 560⟩]
    let rows : List Row := given ++
      [⟨2, 90, 120⟩, ⟨2, 150, 195⟩, ⟨2, 490, 560⟩, ⟨4, 490, 600⟩, ⟨4, 90, 255⟩]
    closePulses.config = .factory ∧ closePulses.converted = .ok given ∧ Long given ∧
      answer (prepare closePulses.properties) closePulses {} = .ok rows ∧
      Covered closePulses.config "AMP_ON" rows 150 190 ∧ Covered closePulses.config "LNA_PROTECT" rows 150 240 ∧
      Covered closePulses.config "AMP_ON" rows 490 560 := by
  intro given rows
  have converted : closePulses.converted = .ok given := by decide +kernel
  have long : Long given := by
    unfold Long
    decide
  have prepared : answer (prepare closePulses.properties) closePulses {} = .ok rows := by decide +kernel
  obtain ⟨pulses, windows, -, -⟩ := protection_is_complete rfl converted long prepared
  obtain ⟨amplifier, receiver⟩ := pulses ⟨8, 235, 255⟩ (by decide) rfl
  exact ⟨rfl, converted, long, prepared, amplifier, receiver, windows ⟨128, 490, 560⟩ (by decide) rfl⟩

end Device

end EprBench.Pulser
