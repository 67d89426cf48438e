import EprBench.Proofs.Pulser.Times
import EprBench.Proofs.Waveform.Buffers
import EprBench.Proofs.Waveform.Layout

/-! Declared intervals in a joined buffer. Intervals that do not overlap are still apart in samples. -/
namespace EprBench.Waveform

open Scalar List Outcome

/-! ### Times -/

instance exactClock : Clock ℚ where
  ofValue v := do Pulser.Timescale.ofText (← v.asText)

def Lasts (v : Value) (x : ℚ) : Prop :=
  ∃ a u k q, v = .text (a ++ " " ++ u) ∧ unitLengths.lookup u = some k ∧ Decimal.parseNumeral? a = some q ∧ x = q.exact * k

/-- Samples in a time at a rate in megahertz. -/
def inSamples (rate : ℤ) (x : ℚ) : ℚ := x * rate / 1000

lemma Lasts.samplesOf {v : Value} {x : ℚ} (lasts : Lasts v x) (rate : ℤ) :
    ∃ n, Tone.samplesOf ℚ rate v = .ok (some n) ∧ (0 ≤ x → 0 < rate → n = ⌊inSamples rate x⌋) := by
  obtain ⟨a, u, k, q, rfl, unit, number, rfl⟩ := lasts
  have known : ∀ e ∈ unitLengths, e.1.toList.length = 2 ∧ Tone.unitFactors.lookup e.1 = some e.2 := by decide
  obtain ⟨two, factor⟩ := known (u, k) (Pulser.mem_of_lookup unit)
  obtain ⟨last, front⟩ := Pulser.part_of_toList (s := a ++ " " ++ u) (a := a) (by simp) two
  have last : (Value.text (a ++ " " ++ u)).slice (some (-2)) none = .ok (.text u) := congrArg (Except.ok ∘ Value.text) last
  have front : (Value.text (a ++ " " ++ u)).slice none (some (-3)) = .ok (.text a) := congrArg (Except.ok ∘ Value.text) front
  have read : (Clock.ofValue (.text a) : Outcome ℚ) = .ok q.exact := Pulser.ofText_eq_ok.mpr ⟨q, number, rfl⟩
  obtain ⟨n, cut⟩ : ∃ n, Quantity.truncated (inSamples rate (q.exact * k)) = .ok n := by
    rw [Quantity.truncated]
    split
    · exact ⟨_, rfl⟩
    · exact ⟨_, rfl⟩
  refine ⟨n, ?_, fun forward positive => ?_⟩
  · rw [Tone.samplesOf, last, ok_bind, choice_text, factor, ok_bind, front]
    simp only [ok_bind, read]
    exact bind_eq_ok.mpr ⟨n, cut, rfl⟩
  · have later : 0 ≤ inSamples rate (q.exact * k) :=
      div_nonneg (mul_nonneg forward (by exact_mod_cast positive.le)) (by norm_num)
    exact Except.ok.inj (cut.symm.trans (Quantity.truncated_of_nonneg later))

lemma lasts_inNanoseconds (n : ℤ) : Lasts (inNanoseconds n) n := by
  obtain ⟨q, number, value⟩ := Decimal.parseNumeral?_intText n
  exact ⟨Decimal.intText n, "ns", 1, q, by rw [inNanoseconds, String.append_assoc]; rfl, rfl, number, by simp [value]⟩

/-! ### Pulses -/

def plainNames : List String := ["SINE", "GAUSS", "SINC", "BLANK", "WURST", "SECH/TANH"]

/-- A pulse of the first channel whose properties can be read, with its start and its length in nanoseconds. -/
structure Spans (p : Pulse) (start length : ℚ) : Prop where
  channel : p.channel = .text "CH0"
  function : ∃ name ∈ plainNames, p.function = .text name ∧
    ∀ shape, Shape.table.lookup name = some shape → ∃ f, Tone.frequencyOf shape p.frequency = .ok f
  forward : 0 ≤ start
  start : Lasts p.start start
  length : Lasts p.length length
  sigma : ∃ x, Lasts p.sigma x
  deltaStart : ∃ x, Lasts p.deltaStart x
  phase : ∃ x, p.phase.toReal = .ok x
  attenuation : ∃ x, p.attenuation.toReal = .ok x
  steepness : ∃ x, p.steepness.toReal = .ok x
  truncation : ∃ x, p.truncation.toReal = .ok x

structure Tone.Stands (rate : ℤ) (start length : ℚ) (t : Tone Float) : Prop where
  channel : t.channel = 0
  plain : t.shape.Plain
  start : t.start = ⌊inSamples rate start⌋
  length : t.length = ⌊inSamples rate length⌋

lemma carry_lift_conversion {β : Type} (x : Outcome β) (s : Tone.Carry) :
    carry (liftM x : Tone.Conversion β) s = (x, s) := rfl

variable {rate : ℤ}

lemma Spans.convert {p : Pulse} {start length : ℚ} (spans : Spans p start length) (positive : 0 < rate)
    (long : 0 ≤ length) (s : Tone.Carry) :
    ∃ t s', carry (Tone.convert ℚ rate (.ofPulse p)) s = (.ok t, s') ∧ t.Stands rate start length := by
  obtain ⟨name, listed, function, readable⟩ := spans.function
  have shapes : ∀ name ∈ plainNames, ∃ shape, Shape.table.lookup name = some shape ∧
    shape ∈ [Shape.sine, .gauss, .sinc, .blank, .wurst, .sech] := by decide
  obtain ⟨shape, found, plain⟩ := shapes name listed
  obtain ⟨f, frequency⟩ := readable shape found
  obtain ⟨n, begins, first⟩ := spans.start.samplesOf rate
  obtain ⟨m, lasts, extent⟩ := spans.length.samplesOf rate
  obtain ⟨x, wide⟩ := spans.sigma
  obtain ⟨w, width, _⟩ := wide.samplesOf rate
  obtain ⟨y, moves⟩ := spans.deltaStart
  obtain ⟨d, step, _⟩ := moves.samplesOf rate
  obtain ⟨phase, turned⟩ := spans.phase
  obtain ⟨attenuation, weak⟩ := spans.attenuation
  obtain ⟨steepness, steep⟩ := spans.steepness
  obtain ⟨truncation, cut⟩ := spans.truncation
  have one : Value.find [("CH0", 0), ("CH1", 1)] (.text "CH0") = .ok (some 0) := rfl
  have kind : Value.find Shape.table (.text name) = .ok (some shape) := congrArg Except.ok found
  refine ⟨⟨0, shape, f, phase, m, Decimal.ofInt w, n, d, attenuation, steepness, truncation⟩,
    ⟨some 0, some shape, some m, some w, some n, some d⟩, ?_, rfl, plain, first spans.forward positive, extent long positive⟩
  rw [Tone.convert, Tone.Properties.ofPulse]
  simp only [ok_bind, spans.channel, function, one, kind, lasts, turned, width, begins, step, weak, steep, cut]
  show carry ((liftM (Tone.frequencyOf shape p.frequency) : Tone.Conversion _) >>= _) _ = _
  rw [carry_bind, carry_lift_conversion, frequency]
  rfl

/-- A declared pulse with its interval, in nanoseconds. -/
structure Interval where
  pulse : Pulse
  start : ℚ
  length : ℚ

namespace Interval

/-- The interval of a pulse that can be played, at least one sample long. -/
def Valid (rate : ℤ) (e : Interval) : Prop := Spans e.pulse e.start e.length ∧ 1 ≤ inSamples rate e.length

/-- Intervals that do not overlap. -/
def Free (e f : Interval) : Prop := e.start + e.length ≤ f.start ∨ f.start + f.length ≤ e.start

def Of (rate : ℤ) (e : Interval) (t : Tone Float) : Prop := t.Stands rate e.start e.length

variable {rate : ℤ}

lemma convert_all (positive : 0 < rate) {es : List Interval} (valid : ∀ e ∈ es, e.Valid rate) (s : Tone.Carry) :
    ∃ tones s', carry ((es.map fun e => .ofPulse e.pulse).mapM (Tone.convert ℚ rate)) s = (.ok tones, s') ∧
      Forall₂ (Of rate) es tones := by
  induction es generalizing s with
  | nil => exact ⟨[], s, rfl, .nil⟩
  | cons e es ih =>
    rw [forall_mem_cons] at valid
    have long : 0 ≤ e.length := by
      by_contra negative
      have short := valid.1.2
      have backward : e.length * rate < 0 := mul_neg_of_neg_of_pos (not_le.mp negative) (by exact_mod_cast positive)
      rw [inSamples] at short
      linarith
    obtain ⟨t, s₁, here, stands⟩ := valid.1.1.convert positive long s
    obtain ⟨tones, s', later, all⟩ := ih valid.2 s₁
    refine ⟨t :: tones, s', ?_, .cons stands all⟩
    rw [map_cons, mapM_cons, carry_bind, here]
    dsimp only
    rw [carry_bind, later]
    rfl

lemma ends_before (positive : 0 < rate) {e f : Interval} {p q : Tone Float} (hp : e.Of rate p) (hq : f.Of rate q)
    (before : e.start + e.length ≤ f.start) : p.start + p.length ≤ q.start := by
  rw [hp.start, hp.length, hq.start]
  calc ⌊inSamples rate e.start⌋ + ⌊inSamples rate e.length⌋ ≤ ⌊inSamples rate e.start + inSamples rate e.length⌋ :=
        Int.le_floor_add _ _
    _ ≤ ⌊inSamples rate f.start⌋ := by
      refine Int.floor_le_floor ?_
      have scaled : (e.start + e.length) * rate ≤ f.start * rate :=
        mul_le_mul_of_nonneg_right before (by exact_mod_cast positive.le)
      rw [inSamples, inSamples, inSamples]
      linarith

def Aside (p q : Tone Float) : Prop := p.start + p.length ≤ q.start ∨ q.start + q.length ≤ p.start

lemma aside_of_free (positive : 0 < rate) {es : List Interval} {tones : List (Tone Float)}
    (all : Forall₂ (Of rate) es tones) (free : es.Pairwise Free) : tones.Pairwise Aside := by
  induction all with
  | nil => exact .nil
  | cons here later ih =>
    rw [pairwise_cons] at free
    refine pairwise_cons.mpr ⟨fun q member => ?_, ih free.2⟩
    obtain ⟨f, listed, there⟩ := exists_of_mem_right later member
    exact (free.1 f listed).imp (ends_before positive here there) (ends_before positive there here)

lemma inTurn_sort {tones : List (Tone Float)} (aside : tones.Pairwise Aside) (one : ∀ p ∈ tones, p.channel = 0)
    (long : ∀ p ∈ tones, 1 ≤ p.length) : InTurn (tones.mergeSort Tone.le) := by
  have sorted : (tones.mergeSort Tone.le).Pairwise fun p q => Tone.le p q = true := by
    refine pairwise_mergeSort (fun p q r first second => ?_) (fun p q => ?_) tones
    · simp only [Tone.le, Bool.or_eq_true, decide_eq_true_eq, Bool.and_eq_true, beq_iff_eq] at first second ⊢
      omega
    · simp only [Tone.le, Bool.or_eq_true, decide_eq_true_eq, Bool.and_eq_true, beq_iff_eq]
      omega
  have same := mergeSort_perm tones Tone.le
  have aside := (same.pairwise_iff fun {p q} => Or.symm).mpr aside
  refine (sorted.and aside).imp_of_mem fun {p q} first second ⟨order, aside⟩ => ?_
  have only := one p (same.subset first)
  have other := one q (same.subset second)
  have room := long q (same.subset second)
  simp only [Tone.le, Bool.or_eq_true, decide_eq_true_eq, Bool.and_eq_true, beq_iff_eq] at order
  rcases aside with before | after
  · exact before
  · omega

end Interval

/-! ### The size of the buffer -/

structure Sized (tones : List (Tone Float)) (size : ℤ) : Prop where
  blocks : 32 ∣ size
  room : ∀ p ∈ tones, p.start + p.length ≤ size
  tight : ∃ p ∈ tones, size < p.start + p.length + 32

variable {tones : List (Tone Float)}

lemma sized_of_inTurn (some : tones ≠ []) (ordered : InTurn tones)
    (long : ∀ p ∈ tones, 0 ≤ p.length) : Sized tones (joinedSize tones) := by
  obtain ⟨front, last, rfl⟩ := (List.eq_nil_or_concat' tones).resolve_left some
  have size : joinedSize (front ++ [last]) = roundUp (last.start + last.length) 32 := by
    rw [joinedSize, getLast?_concat]
    rfl
  obtain ⟨blocks, above, tight⟩ := roundUp_spec 32 (by decide) (last.start + last.length)
  rw [size]
  refine ⟨blocks, fun p member => ?_, last, by simp, tight⟩
  rcases mem_append.mp member with earlier | same
  · have before := (pairwise_append.mp ordered).2.2 p earlier last mem_cons_self
    have extent := long last (by simp)
    omega
  · rw [mem_singleton.mp same]
    exact above

lemma groups_of_one (some : tones ≠ []) (one : ∀ p ∈ tones, p.channel = 0) (mode : Mode) :
    Tone.groups mode tones = .ok [tones] := by
  refine (if_neg (by simpa using some)).trans (congrArg Except.ok (splitBy_of_isChain some (List.Pairwise.isChain ?_)))
  refine pairwise_iff_forall_sublist.mpr fun {p q} sub => ?_
  simp [one p (sub.subset (by simp)), one q (sub.subset (by simp))]

lemma AllAnswered.of_steady (steady : ∀ p ∈ tones, p.shape ≠ .wurst) (before : Option (List Float)) :
    AllAnswered before tones := by
  induction tones generalizing before with
  | nil => trivial
  | cons p rest ih =>
    rw [forall_mem_cons] at steady
    have answered : ∃ after, p.Answered before after := by
      unfold Tone.Answered
      split
      case h_1 sweeps => exact absurd sweeps steady.1
      case h_2 => exact ⟨_, rfl⟩
      case h_3 => exact ⟨_, rfl⟩
    obtain ⟨after, here⟩ := answered
    exact ⟨after, here, ih steady.2 after⟩

/-! ### Declared pulses in the buffer -/

/-- What is true of the tones of declared intervals, whatever their samples are. -/
structure Arranged (rate : ℤ) (es : List Interval) (tones : List (Tone Float)) : Prop where
  places : (tones.map fun p => (p.start, p.length)).Perm
    (es.map fun e => (⌊inSamples rate e.start⌋, ⌊inSamples rate e.length⌋))
  group : ∀ mode, Tone.groups mode tones = .ok [tones]
  sized : Sized tones (joinedSize tones)
  apart : tones.Pairwise Tone.Apart

lemma Interval.places_of_all {es : List Interval} (all : Forall₂ (Interval.Of rate) es tones) :
    tones.map (fun p => (p.start, p.length)) = es.map fun e => (⌊inSamples rate e.start⌋, ⌊inSamples rate e.length⌋) := by
  induction all with
  | nil => rfl
  | cons here _ ih => rw [map_cons, map_cons, ih, here.start, here.length]

lemma Interval.arranged (positive : 0 < rate) {es : List Interval} (some : es ≠ [])
    (valid : ∀ e ∈ es, e.Valid rate) (free : es.Pairwise Interval.Free) :
    ∃ tones, Tone.ofPropertiesIn ℚ rate (es.map fun e => .ofPulse e.pulse) = .ok tones ∧ Arranged rate es tones ∧
      InTurn tones ∧ (∀ p ∈ tones, p.shape.Plain) ∧ ∀ p ∈ tones, p.Inside (joinedSize tones).toNat := by
  obtain ⟨made, s, converted, all⟩ := Interval.convert_all positive valid {}
  have each : ∀ p ∈ made, p.channel = 0 ∧ p.shape.Plain ∧ 0 ≤ p.start ∧ 1 ≤ p.length := by
    intro p member
    obtain ⟨e, listed, stands⟩ := exists_of_mem_right all member
    obtain ⟨spans, long⟩ := valid e listed
    have forward : 0 ≤ inSamples rate e.start :=
      div_nonneg (mul_nonneg spans.forward (by exact_mod_cast positive.le)) (by norm_num)
    refine ⟨stands.channel, stands.plain, ?_, ?_⟩
    · exact stands.start ▸ Int.floor_nonneg.mpr forward
    · exact stands.length ▸ Int.le_floor.mpr (by exact_mod_cast long)
  have same := mergeSort_perm made Tone.le
  have each' := fun p (member : p ∈ made.mergeSort Tone.le) => each p (same.subset member)
  have ordered := Interval.inTurn_sort (Interval.aside_of_free positive all free) (fun p member => (each p member).1)
    fun p member => (each p member).2.2.2
  have filled : made.mergeSort Tone.le ≠ [] := by
    intro none
    have empty : made.length = 0 := by rw [← same.length_eq, none, length_nil]
    exact some (length_eq_zero_iff.mp (all.length_eq.trans empty))
  have sized := sized_of_inTurn filled ordered fun p member => zero_le_one.trans (each' p member).2.2.2
  have inside : ∀ p ∈ made.mergeSort Tone.le, p.Inside (joinedSize (made.mergeSort Tone.le)).toNat := by
    intro p member
    obtain ⟨-, -, start, length⟩ := each' p member
    have room := sized.room p member
    exact ⟨start, by omega, by omega⟩
  refine ⟨made.mergeSort Tone.le, ?_, ⟨?_, ?_, sized, ?_⟩, ordered, fun p member => (each' p member).2.1, inside⟩
  · exact bind_eq_ok.mpr ⟨made, congrArg Prod.fst converted, rfl⟩
  · exact Interval.places_of_all all ▸ same.map _
  · exact groups_of_one filled fun p member => (each' p member).1
  · exact ordered.imp_of_mem fun first second before => (inside _ first).apart (inside _ second) before

/-- A buffer is made just if each tone finds the phase response that it needs, and then holds them at their places. -/
def Fills (rate : ℤ) (turn : Float) (tones : List (Tone Float)) (draws : ℕ → Float) (k : ℕ) : Prop :=
  ((carry (stereoBuffer rate draws turn (joinedSize tones).toNat tones) k).1.isOk = true ↔ AllAnswered none tones) ∧
    ∀ b k', carry (stereoBuffer rate draws turn (joinedSize tones).toNat tones) k = (.ok b, k') →
      Joined rate draws turn (joinedSize tones).toNat tones k b k'

lemma fills_of_inTurn (ordered : InTurn tones) (plain : ∀ p ∈ tones, p.shape.Plain)
    (inside : ∀ p ∈ tones, p.Inside (joinedSize tones).toNat) (rate : ℤ) (turn : Float) (draws : ℕ → Float) (k : ℕ) :
    Fills rate turn tones draws k := by
  refine ⟨⟨fun done => ?_, fun answered => ?_⟩, fun b k' done => ?_⟩
  · obtain ⟨b, made⟩ := exists_of_isOk done
    exact AllAnswered.of_stereoBuffer inside plain (Prod.ext made rfl)
  · obtain ⟨b, k', made, -⟩ := answered.stereoBuffer ordered inside plain rate draws turn k
    rw [made]
    rfl
  · have answered := AllAnswered.of_stereoBuffer inside plain done
    obtain ⟨b', k'', made, joined⟩ := answered.stereoBuffer ordered inside plain rate draws turn k
    obtain ⟨same, rfl⟩ := Prod.mk.inj (done.symm.trans made)
    exact Except.ok.inj same ▸ joined

/-- Pulses of the first channel in a joined buffer of both channels. Where the times are read exactly, the tones of intervals
that do not overlap stand apart in a buffer of whole blocks, which reaches just to the block of the last end. The buffer is
made, with every sample at its place and zeros elsewhere, just if no sweep lacks a phase response of its own length. A
session that reads the same tones makes this buffer. -/
theorem joined_intervals_stay_apart {rate : ℤ} (positive : 0 < rate) {es : List Interval} (some : es ≠ [])
    (valid : ∀ e ∈ es, e.Valid rate) (free : es.Pairwise Interval.Free) :
    ∃ tones, Tone.ofPropertiesIn ℚ rate (es.map fun e => .ofPulse e.pulse) = .ok tones ∧ Arranged rate es tones ∧
      (∀ turn draws k, Fills rate turn tones draws k) ∧ ((∀ p ∈ tones, p.shape ≠ .wurst) → AllAnswered none tones) ∧
      ∀ (g : Generator) (b : Bench), g.mode = .live → g.stereo = true → g.rate = rate →
        Tone.ofPulses rate g.pulses = .ok tones →
        ∃ draws k h b', perform Generator.buildJoined g b = (((carry (stereoBuffer rate draws g.limits.secondPhase
          (joinedSize tones).toNat tones) k).1, h), b') ∧ h.memory = joinedSize tones := by
  obtain ⟨tones, made, arranged, ordered, plain, inside⟩ := Interval.arranged positive some valid free
  refine ⟨tones, made, arranged, fills_of_inTurn ordered plain inside rate, fun steady => .of_steady steady none, ?_⟩
  rintro g b live both rfl read
  have known : g.toneGroups = .ok [tones] := bind_eq_ok.mpr ⟨tones, read, arranged.group g.mode⟩
  have fits : 0 ≤ joinedSize tones := by
    obtain ⟨p, member, -⟩ := arranged.sized.tight
    have room := arranged.sized.room p member
    have ⟨start, length, _⟩ := inside p member
    omega
  exact Generator.perform_buildJoined live both known fits b

/-- A pulse as wide as it is long, with nothing else out of the ordinary. -/
def plainPulse (function : String) (frequency : Value) (start length : ℤ) : Pulse where
  name := "P0"
  channel := "CH0"
  function := function
  frequency := frequency
  phase := .float 0
  deltaPhase := .float 0
  length := inNanoseconds length
  sigma := inNanoseconds length
  lengthIncrement := inNanoseconds 0
  start := inNanoseconds start
  deltaStart := inNanoseconds 0
  attenuation := .int 1
  phases := .list []
  steepness := .int 1
  truncation := .float 0.02

lemma spans_plainPulse {function : String} {frequency : Value} (start length : ℤ) (listed : function ∈ plainNames)
    (readable : ∀ e ∈ Shape.table, e.1 = function → (Tone.frequencyOf e.2 frequency).isOk = true) (forward : 0 ≤ start) :
    Spans (plainPulse function frequency start length) start length := by
  refine ⟨rfl, ⟨function, listed, rfl, fun shape found => ?_⟩, by exact_mod_cast forward, lasts_inNanoseconds start,
    lasts_inNanoseconds length, ⟨_, lasts_inNanoseconds length⟩, ⟨_, lasts_inNanoseconds 0⟩, ⟨_, rfl⟩, ⟨_, rfl⟩, ⟨_, rfl⟩,
    ⟨_, rfl⟩⟩
  exact exists_of_isOk (readable (function, shape) (Pulser.mem_of_lookup found) rfl)

/-- Two pulses that touch, the later one declared first. -/
def touching : List Interval :=
  [⟨plainPulse "SINE" "200 MHz" 100 64, 100, 64⟩, ⟨plainPulse "GAUSS" "200 MHz" 0 100, 0, 100⟩]

theorem joined_intervals_stay_apart_touching : touching.Pairwise Interval.Free ∧ ∃ tones,
    Tone.ofPropertiesIn ℚ 1250 (touching.map fun e => .ofPulse e.pulse) = .ok tones ∧ Arranged 1250 touching tones ∧
      ∀ turn draws k, Fills 1250 turn tones draws k := by
  have free : touching.Pairwise Interval.Free :=
    pairwise_pair.mpr (Or.inr (by show (0 : ℚ) + 100 ≤ 100; norm_num))
  have valid : ∀ e ∈ touching, e.Valid 1250 := by
    refine forall_mem_cons.mpr ⟨⟨?_, by show (1 : ℚ) ≤ 64 * 1250 / 1000; norm_num⟩, forall_mem_singleton.mpr
      ⟨?_, by show (1 : ℚ) ≤ 100 * 1250 / 1000; norm_num⟩⟩
    · exact_mod_cast spans_plainPulse 100 64 (by decide) (by decide +kernel) (by decide)
    · exact_mod_cast spans_plainPulse 0 100 (by decide) (by decide +kernel) (by decide)
  obtain ⟨tones, made, arranged, fills, -⟩ := joined_intervals_stay_apart (by decide) (cons_ne_nil _ _)
    valid free
  exact ⟨free, tones, made, arranged, fills⟩

def sweep : Pulse := plainPulse "WURST" (.tuple ["100 MHz", "1 MHz"]) 0 86

def sweepBuffer : Outcome (Array ℤ) := do
  let tones ← Tone.ofPropertiesIn ℚ 1250 [.ofPulse sweep]
  (carry (stereoBuffer 1250 (fun _ => 0) 0 (joinedSize tones).toNat tones) 0).1

/-- The response of the resonator to the sweep is rounded to 108 values, which cannot be put into 107 places. -/
theorem sweep_misses_response : (Interval.mk sweep 0 86).Valid 1250 ∧ sweepBuffer = .error .wrongValue := by
  refine ⟨⟨?_, by show (1 : ℚ) ≤ 86 * 1250 / 1000; norm_num⟩, by decide +kernel⟩
  exact_mod_cast spans_plainPulse 0 86 (by decide) (by decide +kernel) (by decide)

end EprBench.Waveform
