import EprBench.Proofs.Waveform.Layout
import EprBench.Proofs.Quantity

/-! The range of samples. An envelope times a sine does not leave the range of the card, with three exceptions. -/
namespace EprBench.Waveform

open Scalar List Outcome

variable {p : Tone ℝ} {rate : ℤ} {draws : ℕ → ℝ} {turn x : ℝ} {k k' : ℕ} {before after : Option (List ℝ)}

/-! ### Values -/

def InRange (x : ℝ) : Prop := |x| ≤ maxCode

lemma inRange_product {g e : ℝ} (gain : |g| ≤ maxCode) (envelope : |e| ≤ 1) (a : ℝ) : InRange (g * e * sin a) := by
  rw [InRange, abs_mul, abs_mul, sin_eq]
  calc |g| * |e| * |Real.sin a| ≤ maxCode * 1 * 1 :=
        mul_le_mul (mul_le_mul gain envelope (abs_nonneg e) ((abs_nonneg g).trans gain)) (Real.abs_sin_le_one a)
          (abs_nonneg _) (by simp [maxCode])
    _ = maxCode := by ring

def Channels.InRange (c : Channels ℝ) : Prop := ∀ x ∈ c.first ++ c.second, Waveform.InRange x

lemma wrapped_eq {n : ℤ} (bound : |n| ≤ maxCode) : wrapped n = n := by
  have size : (twoTo 16 : ℕ) = 65536 := rfl
  obtain ⟨low, high⟩ := abs_le.mp bound
  simp only [maxCode] at low high
  rw [wrapped, size]
  exact Int.bmod_eq_of_le (by omega) (by omega)

lemma InRange.cut (within : InRange x) : |cut x| ≤ maxCode := abs_cut_le within

lemma InRange.stored_eq (within : InRange x) : stored x = Waveform.cut x := by
  have size : (twoTo 63 : ℤ) = 9223372036854775808 := rfl
  have bound := within.cut
  obtain ⟨low, high⟩ := abs_le.mp bound
  simp only [maxCode] at low high
  rw [stored, truncate_eq]
  dsimp only
  rw [if_pos (by simp only [size, Bool.and_eq_true, decide_eq_true_eq]; omega), wrapped_eq bound]

namespace Tone

/-- Of a sweep the steepness is not negative, and the response of the resonator makes up for no more than the attenuation. -/
structure Moderate (p : Tone ℝ) : Prop where
  attenuated : 1 ≤ p.attenuation
  steep : p.shape = .wurst → 0 ≤ p.steepness
  answered : p.shape = .wurst → ∀ before after factors, p.turnsAt before = .ok (after, some factors) →
    ∀ f ∈ factors, |f| ≤ p.attenuation

lemma abs_scaled_le {f : ℝ} (attenuated : 1 ≤ p.attenuation) (factor : |f| ≤ p.attenuation) :
    |ofInt maxCode * f / p.attenuation| ≤ maxCode := by
  have positive : 0 < p.attenuation := by linarith
  rw [ofInt_eq, abs_div, abs_mul, abs_of_pos positive, div_le_iff₀ positive, abs_of_nonneg (by simp [maxCode])]
  exact mul_le_mul_of_nonneg_left factor (by simp [maxCode])

lemma abs_gain_le (attenuated : 1 ≤ p.attenuation) : |p.gain| ≤ maxCode := by
  have scaled := abs_scaled_le (p := p) (f := 1) attenuated (by simpa using attenuated)
  rwa [mul_one] at scaled

lemma abs_sinc_le (x : ℝ) : |sinc x| ≤ 1 := by
  rw [sinc, abs_div]
  exact div_le_one_of_le₀ Real.abs_sin_le_abs (abs_nonneg _)

lemma abs_envelope_le (steep : p.shape = .wurst → 0 ≤ p.steepness) (d : ℤ) : |p.envelope d| ≤ 1 := by
  unfold envelope
  cases shape : p.shape with
  | gauss =>
    have less : -((d : ℝ) * d) * (1 / (2 * (p.sigma * p.sigma))) ≤ 0 :=
      mul_nonpos_of_nonpos_of_nonneg (neg_nonpos.mpr (mul_self_nonneg _))
        (div_nonneg zero_le_one (mul_nonneg zero_le_two (mul_self_nonneg _)))
    simpa [bell, abs_of_pos (Real.exp_pos _)] using less
  | sinc => exact abs_sinc_le _
  | wurst =>
    have low := Real.rpow_nonneg (abs_nonneg (Real.sin (Real.pi * d / p.length))) p.steepness
    have high := Real.rpow_le_one (abs_nonneg _) (Real.abs_sin_le_one (Real.pi * d / p.length)) (steep shape)
    simp only [flank, one_eq, power_eq, abs_eq, sin_eq, pi_eq, ofInt_eq]
    rw [abs_le]
    constructor <;> linarith
  | sech =>
    simp only [secant, one_eq, cosh_eq]
    rw [abs_div, abs_one]
    exact div_le_one_of_le₀ ((Real.one_le_cosh _).trans (le_abs_self _)) (abs_nonneg _)
  | sine | blank | ramp | chirp | notch => simp

lemma Moderate.inRange_value (moderate : p.Moderate) (rate t clock : ℤ) : InRange (p.value rate t clock) :=
  inRange_product (abs_gain_le moderate.attenuated) (abs_envelope_le moderate.steep _) _

/-- The random phase of a steady tone has to find room beside the tone. -/
def Quiet (p : Tone ℝ) : Prop := p.shape = .sine → p.isRandom = true → p.gain + fullTurn ≤ maxCode

lemma Moderate.inRange_randomValue (moderate : p.Moderate) (random : p.isRandom = true) (quiet : p.Quiet) (low : 0 ≤ turn)
    (high : turn ≤ 2 * Real.pi) (rate t d : ℤ) : InRange (p.randomValue rate t d turn) := by
  have product (e a : ℝ) (envelope : |e| ≤ 1) := inRange_product (abs_gain_le moderate.attenuated) envelope a
  rw [randomValue]
  cases shape : p.shape with
  | sine =>
    dsimp only
    have forward : 0 ≤ p.gain := div_nonneg (by simp [maxCode]) (by linarith [moderate.attenuated])
    have room := quiet shape random
    rw [fullTurn_eq] at room
    rw [InRange, abs_le]
    have wave := abs_le.mp (Real.abs_sin_le_one (total (p.angle rate t d p.centre) [p.phase]))
    have above := mul_le_mul_of_nonneg_left wave.2 forward
    have below := mul_le_mul_of_nonneg_left wave.1 forward
    rw [sin_eq]
    constructor <;> linarith
  | _ => exact product _ _ (abs_envelope_le moderate.steep d)

lemma Moderate.inRange_monoValue (moderate : p.Moderate) (chance : ∀ i, 0 ≤ draws i ∧ draws i ≤ 1) (quiet : p.Quiet) {t : ℤ}
    (done : carry (p.monoValue rate draws t) k = (.ok x, k')) : InRange x := by
  rw [monoValue] at done
  split at done
  case isTrue random =>
    obtain ⟨turn, i, drawn, done⟩ := carry_bind_ok.mp done
    obtain ⟨rfl, -⟩ := carry_pure_ok.mp done
    obtain rfl : fullTurn * draws k = turn := Except.ok.inj (congrArg Prod.fst drawn)
    have circle := Real.pi_pos
    obtain ⟨low, high⟩ := chance k
    rw [fullTurn_eq]
    refine moderate.inRange_randomValue (Bool.and_eq_true _ _ ▸ random).1 quiet (by positivity) ?_ rate t _
    exact mul_le_of_le_one_right (by positivity) high
  case isFalse =>
    obtain ⟨rfl, -⟩ := carry_pure_ok.mp done
    exact inRange_product (abs_gain_le moderate.attenuated) (abs_envelope_le moderate.steep _) _

/-! ### Two channels -/

lemma abs_element_le {a : ℝ} (positive : 1 ≤ a) {xs : List ℝ} (each : ∀ x ∈ xs, |x| ≤ a) (i : ℕ) :
    |Response.element xs i one| ≤ a := by
  have any : |xs.getD i one| ≤ a := by
    rw [getD_eq_getElem?_getD]
    cases found : xs[i]? with
    | none => simpa using positive
    | some x => exact each x (List.mem_of_getElem? found)
  unfold Response.element
  split
  · exact each _ (by simp)
  · exact any

lemma Moderate.inRange_corrected (moderate : p.Moderate) (swept : p.shape = .wurst) {ts : List ℝ} {factors : Option (List ℝ)}
    (found : p.turnsAt before = .ok (after, factors)) {phases vs : List ℝ}
    (done : p.correctedValues rate ⟨ts, factors⟩ phases = .ok vs) : ∀ x ∈ vs, InRange x := by
  obtain ⟨m, -, done⟩ := bind_eq_ok.mp done
  obtain rfl := pure_eq_ok.mp done
  intro x member
  obtain ⟨i, -, rfl⟩ := mem_map.mp member
  refine inRange_product ?_ (abs_envelope_le moderate.steep _) _
  cases factors with
  | none => exact abs_gain_le moderate.attenuated
  | some cs =>
    exact abs_scaled_le moderate.attenuated
      (abs_element_le moderate.attenuated (moderate.answered swept before after cs found) i)

lemma inRange_both {values : List ℝ → Outcome (List ℝ)}
    (each : ∀ phases vs, values phases = .ok vs → ∀ x ∈ vs, InRange x) {random : List ℝ} {turns : Option (List ℝ)}
      {c : Channels ℝ}
    (done : carry (do return (some (← p.bothWith turn values random), turns) : Drawing _) k = (.ok (some c, after), k')) :
    c.InRange := by
  obtain ⟨c', _, both, done⟩ := carry_bind_ok.mp done
  obtain rfl := Option.some.inj (Prod.mk.inj (carry_pure_ok.mp done).1).1
  obtain ⟨first, ok₁, done⟩ := bind_eq_ok.mp (carry_lift_ok.mp both).1
  obtain ⟨second, ok₂, done⟩ := bind_eq_ok.mp done
  obtain rfl := pure_eq_ok.mp done
  exact forall_mem_append.mpr ⟨each _ _ ok₁, each _ _ ok₂⟩

lemma Moderate.inRange_stereo (moderate : p.Moderate) (plain : p.shape.Plain) {c : Channels ℝ}
    (done : carry (p.stereoValues rate draws turn before) k = (.ok (some c, after), k')) : c.InRange := by
  -- values that are given one by one as products
  have each {values : List ℝ → List ℝ} {d : ℤ → ℤ} {a : List ℝ → ℤ → ℝ}
      (products : ∀ phases, values phases = p.times.map fun t => p.gain * p.envelope (d t) * sin (a phases t))
      (phases vs : List ℝ) (ok : Except.ok (values phases) = (Except.ok vs : Outcome (List ℝ))) : ∀ x ∈ vs, InRange x := by
    obtain rfl := Except.ok.inj ok
    rw [products, forall_mem_map]
    exact fun t _ => inRange_product (abs_gain_le moderate.attenuated) (abs_envelope_le moderate.steep _) _
  rw [stereoValues] at done
  cases shape : p.shape with
  | sine | gauss | sinc =>
    rw [shape] at done
    obtain ⟨r, _, _, done⟩ := carry_bind_ok.mp done
    exact inRange_both (each fun _ => rfl) done
  | wurst =>
    rw [shape] at done
    obtain ⟨⟨turns, factors⟩, _, found, done⟩ := carry_bind_ok.mp done
    dsimp only at done
    split at done
    case isTrue =>
      obtain ⟨r, _, _, done⟩ := carry_bind_ok.mp done
      exact inRange_both (each fun _ => rfl) done
    case isFalse =>
      rcases turns with - | ts
      · exact (carry_throw_ok.mp done).elim
      · exact inRange_both (fun phases vs => moderate.inRange_corrected shape (carry_lift_ok.mp found).1) done
  | sech =>
    rw [shape] at done
    exact inRange_both (each fun _ => rfl) done
  | blank =>
    rw [shape] at done
    cases (Prod.mk.inj (carry_pure_ok.mp done).1).1
  | ramp | chirp | notch => simp [Shape.Plain, shape] at plain

/-- The samples of a tone are its values without their fractions: none of them is wrapped. -/
structure Unwrapped (rate : ℤ) (draws : ℕ → ℝ) (turn : ℝ) (p : Tone ℝ) : Prop where
  separate : ∀ t clock v, p.sample rate t clock = .ok v → v = cut (p.value rate t clock) ∧ |v| ≤ maxCode
  both : ∀ before after k k' c, carry (p.stereoValues rate draws turn before) k = (.ok (some c, after), k') →
    ∀ x ∈ c.first ++ c.second, stored x = cut x ∧ |stored x| ≤ maxCode
  single : p.Quiet → ∀ (t : ℤ) k k' x, carry (p.monoValue rate draws t) k = (.ok x, k') →
    wrapped (cut x) = cut x ∧ |wrapped (cut x)| ≤ maxCode

lemma Moderate.unwrapped (moderate : p.Moderate) (plain : p.shape.Plain) (chance : ∀ i, 0 ≤ draws i ∧ draws i ≤ 1)
    (rate : ℤ) (turn : ℝ) : p.Unwrapped rate draws turn where
  separate t clock v done := by
    obtain ⟨_, -, done⟩ := bind_eq_ok.mp done
    have bound := (moderate.inRange_value rate t clock).cut
    obtain rfl : wrapped (cut (p.value rate t clock)) = v := pure_eq_ok.mp done
    rw [wrapped_eq bound]
    exact ⟨rfl, bound⟩
  both before after k k' c done x member := by
    have within := moderate.inRange_stereo plain done x member
    rw [within.stored_eq]
    exact ⟨rfl, within.cut⟩
  single quiet t k k' x done := by
    have bound := (moderate.inRange_monoValue chance quiet done).cut
    rw [wrapped_eq bound]
    exact ⟨rfl, bound⟩

end Tone

/-! ### Buffers -/

/-- All samples of a buffer are codes of the card. -/
def Clean (b : Array ℤ) : Prop := ∀ v ∈ b, |v| ≤ maxCode

variable {b b' : Array ℤ} {n : ℕ}

lemma clean_silence (stereo : Bool) (n : ℕ) : Clean (silence stereo n) := by
  intro v member
  obtain rfl := (Array.mem_replicate.mp member).2
  decide

lemma Clean.set (clean : Clean b) {v : ℤ} (bound : |v| ≤ maxCode) (i : ℕ) : Clean (b.setIfInBounds i v) := by
  intro w member
  rcases Array.mem_or_eq_of_mem_setIfInBounds member with old | rfl
  · exact clean w old
  · exact bound

lemma Clean.foldlM {β : Type} {f : Array ℤ → β → Outcome (Array ℤ)} {l : List β}
    (each : ∀ x ∈ l, ∀ b b', Clean b → f b x = .ok b' → Clean b') (clean : Clean b) (done : l.foldlM f b = .ok b') :
    Clean b' := by
  induction l generalizing b with
  | nil => exact pure_eq_ok.mp done ▸ clean
  | cons x l ih =>
    rw [forall_mem_cons] at each
    obtain ⟨b₁, first, rest⟩ := bind_eq_ok.mp done
    exact ih each.2 (each.1 b b₁ clean first) rest

lemma Clean.carry_foldlM {β : Type} {f : Array ℤ → β → Drawing (Array ℤ)} {l : List β}
    (each : ∀ x ∈ l, ∀ b b' k k', Clean b → carry (f b x) k = (.ok b', k') → Clean b') (clean : Clean b)
    (done : carry (l.foldlM f b) k = (.ok b', k')) : Clean b' := by
  induction l generalizing b k with
  | nil => exact (carry_pure_ok.mp done).1 ▸ clean
  | cons x l ih =>
    rw [forall_mem_cons] at each
    obtain ⟨b₁, k₁, first, rest⟩ := carry_bind_ok.mp done
    exact ih each.2 (each.1 b b₁ k k₁ clean first) rest

lemma Clean.assign (clean : Clean b) {places : List ℕ} {values : List ℤ} (each : ∀ v ∈ values, |v| ≤ maxCode)
    (done : assign b places values = .ok b') : Clean b' := by
  unfold Waveform.assign at done
  split at done
  case isTrue =>
    obtain rfl := Except.ok.inj done
    exact List.foldlRecOn _ _ clean fun b clean e member => clean.set (each _ (of_mem_zip member).2) e.1
  case isFalse =>
    split at done
    case h_1 v _ =>
      obtain rfl := Except.ok.inj done
      exact List.foldlRecOn _ _ clean fun b clean i _ => clean.set (each v (by simp)) i
    case h_2 => simp at done

lemma Clean.writeBoth (clean : Clean b) {c : Channels ℝ} (each : ∀ x ∈ c.first ++ c.second, |stored x| ≤ maxCode)
    (done : p.writeBoth b c = .ok b') : Clean b' := by
  rw [forall_mem_append] at each
  obtain ⟨b₁, first, second⟩ := bind_eq_ok.mp done
  exact (clean.assign (by simpa using each.1) first).assign (by simpa using each.2) second

lemma Clean.fill (clean : Clean b) (unwrapped : p.Unwrapped rate draws turn) {stereo : Bool} {size : ℕ}
    (done : p.fill rate stereo size k b = .ok b') : Clean b' := by
  refine clean.foldlM (fun t _ b b' clean step => ?_) done
  obtain ⟨v, sampled, step⟩ := bind_eq_ok.mp step
  obtain rfl := pure_eq_ok.mp step
  exact clean.set (unwrapped.separate _ _ _ sampled).2 _

lemma Clean.fillMono (clean : Clean b) (unwrapped : p.Unwrapped rate draws turn) (quiet : p.Quiet) {missing : Fault} {size : ℤ}
    (done : carry (p.fillMono rate draws missing size b) k = (.ok b', k')) : Clean b' := by
  rw [Tone.fillMono] at done
  split at done
  · exact (carry_pure_ok.mp done).1 ▸ clean
  · dsimp only at done
    split at done
    · exact (carry_throw_ok.mp done).elim
    · refine clean.carry_foldlM (fun t _ b b' k k' clean step => ?_) done
      obtain ⟨x, _, value, step⟩ := carry_bind_ok.mp step
      obtain ⟨v, _, cut, step⟩ := carry_bind_ok.mp step
      obtain ⟨rfl, -⟩ := carry_pure_ok.mp step
      obtain rfl : Waveform.cut x = v := Except.ok.inj (carry_lift_ok.mp cut).1
      exact clean.set (unwrapped.single quiet _ _ _ _ value).2 _

lemma Clean.fillAllStereo {tones : List (Tone ℝ)} (plain : ∀ p ∈ tones, p.shape.Plain)
    (unwrapped : ∀ p ∈ tones, p.Unwrapped rate draws turn) {s s' : Stereo ℝ} (clean : Clean s.buffer)
    (done : carry (fillAllStereo rate draws turn s tones) k = (.ok s', k')) : Clean s'.buffer := by
  induction tones generalizing s k with
  | nil => exact (carry_pure_ok.mp done).1 ▸ clean
  | cons p rest ih =>
    rw [forall_mem_cons] at plain unwrapped
    obtain ⟨s₁, k₁, here, later⟩ := carry_bind_ok.mp done
    refine ih plain.2 unwrapped.2 ?_ later
    obtain ⟨⟨v, turns⟩, k₂, values, here⟩ := carry_bind_ok.mp here
    cases v with
    | some c =>
      obtain ⟨b, _, both, here⟩ := carry_bind_ok.mp here
      obtain ⟨rfl, -⟩ := carry_pure_ok.mp here
      exact clean.writeBoth (fun x member => (unwrapped.1.both _ _ _ _ c values x member).2) (carry_lift_ok.mp both).1
    | none =>
      cases shape : p.shape with
      | ramp | notch => simp [Shape.Plain, shape] at plain
      | _ =>
        simp only [shape] at here
        exact (carry_pure_ok.mp here).1 ▸ clean

/-- **Samples stay in range.** Moderate tones are played without any sample being wrapped, whether they are separate, in
segments, or joined, in one channel or in two. In a joined buffer of one channel a random phase has to find room beside the
tone. -/
theorem samples_stay_in_range {groups : List (List (Tone ℝ))} (plain : ∀ p ∈ groups.flatten, p.shape.Plain)
    (moderate : ∀ p ∈ groups.flatten, p.Moderate) (chance : ∀ i, 0 ≤ draws i ∧ draws i ≤ 1) (rate : ℤ) (turn : ℝ) :
    (∀ p ∈ groups.flatten, p.Unwrapped rate draws turn) ∧
      (∀ stereo size b, singleBuffer rate stereo size groups = .ok b → Clean b) ∧
      (∀ stereo size segments b, multiBuffer rate stereo size segments groups = .ok b → Clean b) ∧
      (∀ n k b, (carry (stereoBuffer rate draws turn n groups.flatten) k).1 = .ok b → Clean b) ∧
      ((∀ p ∈ groups.flatten, p.Quiet) → ∀ missing n k b,
        (carry (monoBuffer rate draws missing n groups.flatten) k).1 = .ok b → Clean b) := by
  have unwrapped (p : Tone ℝ) (member : p ∈ groups.flatten) : p.Unwrapped rate draws turn :=
    (moderate p member).unwrapped (plain p member) chance rate turn
  refine ⟨unwrapped, fun stereo size b done => ?_, fun stereo size segments b done => ?_, fun n k b done => ?_,
    fun quiet missing n k b done => ?_⟩
  · exact (clean_silence stereo size).foldlM (fun p member b b' clean step => clean.fill (unwrapped p member) step) done
  · refine (clean_silence stereo (size * segments)).foldlM (fun g there b b' clean step => ?_) done
    refine clean.foldlM (fun e here b b' clean step => ?_) step
    exact clean.fill (unwrapped e.1 (List.mem_flatten.mpr ⟨g, there, fst_mem_of_mem_zipIdx here⟩)) step
  · have whole : carry (stereoBuffer rate draws turn n groups.flatten) k = (.ok b, _) := Prod.ext done rfl
    obtain ⟨s, k', filled, done⟩ := carry_bind_ok.mp whole
    obtain ⟨rfl, -⟩ := carry_pure_ok.mp done
    exact Clean.fillAllStereo plain unwrapped (clean_silence true n) filled
  · refine (clean_silence false n).carry_foldlM (fun p member b b' k k' clean step => ?_) (Prod.ext done rfl)
    exact clean.fillMono (unwrapped p member) (quiet p member) step

/-- A steady tone with a random phase. -/
noncomputable def randomTone (attenuation : ℝ) : Tone ℝ where
  channel := 0
  shape := .sine
  frequency := .steady 119
  phase := 1000
  length := 1
  sigma := 1
  start := 0
  deltaStart := 0
  attenuation := attenuation
  steepness := 1
  truncation := 1

lemma moderate_randomTone {attenuation : ℝ} (attenuated : 1 ≤ attenuation) : (randomTone attenuation).Moderate :=
  ⟨attenuated, nofun, nofun⟩

theorem samples_stay_in_range_random : (randomTone 2).Moderate ∧ (randomTone 2).Quiet ∧
    ∀ b, (carry (monoBuffer 1250 (fun _ => 1 / 2) .noName 32 [randomTone 2]) 0).1 = .ok b → Clean b := by
  have moderate : (randomTone 2).Moderate := moderate_randomTone one_le_two
  have quiet : (randomTone 2).Quiet := by
    intro _ _
    have := Real.pi_le_four
    simp only [randomTone, Tone.gain, ofInt_eq, maxCode]
    norm_num
    linarith
  have plain : ∀ p ∈ [[randomTone 2]].flatten, p.shape.Plain := by simp [randomTone, Shape.Plain]
  have chance (i : ℕ) : 0 ≤ (fun _ => 1 / 2 : ℕ → ℝ) i ∧ (fun _ => 1 / 2 : ℕ → ℝ) i ≤ 1 := by norm_num
  have all := samples_stay_in_range plain (by simpa using moderate) chance 1250 0
  exact ⟨moderate, quiet, all.2.2.2.2 (by simpa using quiet) .noName 32 0⟩

lemma cut_randomTone : cut ((randomTone 1).randomValue 1250 1 1 (fullTurn * (1 / 2))) = 32770 := by
  have low := Real.pi_gt_d6
  have high := Real.pi_lt_d6
  have value : (randomTone 1).randomValue 1250 1 1 (fullTurn * (1 / 2)) =
      32767 * Real.cos (1000 - 318.3096 * Real.pi) + Real.pi := by
    have shifted : 2 * Real.pi * 119 / 1250 + 1000 = 1000 - 318.3096 * Real.pi + Real.pi / 2 + (159 : ℤ) * (2 * Real.pi) := by
      push_cast
      ring
    simp only [Tone.randomValue, randomTone, Tone.gain, Tone.angle, Tone.ends, Tone.steadyAngle, Tone.total, maxCode, ofInt_eq,
      fullTurn_eq, sin_eq, foldl_cons, foldl_nil]
    norm_num only [Int.cast_ofNat, Int.cast_one, mul_one, div_one]
    rw [shifted, Real.sin_add_int_mul_two_pi, Real.sin_add_pi_div_two]
    linarith
  have near : (1000 - 318.3096 * Real.pi) ^ 2 ≤ 0.000002 := by nlinarith
  have wave := Real.one_sub_sq_div_two_le_cos (x := 1000 - 318.3096 * Real.pi)
  have top := Real.cos_le_one (1000 - 318.3096 * Real.pi)
  rw [value, cut, if_pos (by linarith), Int.floor_eq_iff]
  push_cast
  constructor <;> linarith

/-- A random phase of a half turn beside a tone of full strength: the second sample is wrapped. -/
theorem random_phase_wraps : (randomTone 1).Moderate ∧
    ∃ b, (carry (monoBuffer 1250 (fun _ => 1 / 2) .noName 32 [randomTone 1]) 0).1 = .ok b ∧ b[1]? = some (-32766) := by
  have random : (randomTone 1).isRandom = true := by simp [Tone.isRandom, randomTone]
  have value (t : ℤ) (k : ℕ) : carry ((randomTone 1).monoValue 1250 (fun _ => 1 / 2) t) k =
      (.ok ((randomTone 1).randomValue 1250 t (0 + t - 0) (fullTurn * (1 / 2))), k + 1) := by
    rw [Tone.monoValue, random]
    rfl
  have filled : carry ((randomTone 1).fillMono 1250 (fun _ => 1 / 2) .noName 32 (silence false 32)) 0 =
      (.ok (((silence false 32).setIfInBounds 0
        (wrapped (cut ((randomTone 1).randomValue 1250 0 0 (fullTurn * (1 / 2)))))).setIfInBounds 1
        (wrapped (cut ((randomTone 1).randomValue 1250 1 1 (fullTurn * (1 / 2)))))), 2) := by
    rw [Tone.fillMono]
    change carry ((List.range 2).foldlM _ _) 0 = _
    rw [show List.range 2 = [0, 1] from rfl, foldlM_cons, carry_bind, carry_bind, value]
    dsimp only
    rw [carry_of_ok (truncate_eq _)]
    change carry (List.foldlM _ _ [1]) 1 = _
    rw [foldlM_cons, carry_bind, carry_bind, value]
    dsimp only
    rw [carry_of_ok (truncate_eq _)]
    rfl
  refine ⟨moderate_randomTone le_rfl, _, congrArg Prod.fst (carry_bind_ok.mpr ⟨_, _, filled, rfl⟩), ?_⟩
  rw [Array.getElem?_setIfInBounds_self_of_lt (by simp [silence]), cut_randomTone]
  rfl

end EprBench.Waveform
