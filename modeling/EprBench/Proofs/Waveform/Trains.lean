import EprBench.Proofs.Outcome
import EprBench.Proofs.Quantity
import EprBench.Waveform.Sequence

/-! Points of a pulse train with fixed phases. With two channels the first one is played as a single channel is, but
for steady pulses and hyperbolic sweeps. -/
namespace EprBench.Waveform.Train

open Scalar List Outcome

variable {α : Type} [Scalar α] {c : Setting α} {s : Train α} {shape : Shape} {index point size j n : ℕ} {draws : ℕ → α}
  {b m : Array ℤ} {p : Tone α}

/-- No pulse has a random phase. -/
def Fixed (s : Train α) : Prop := ∀ phase ∈ s.phases, isZero (phase - ofInt 1000) = false

structure Made (s : Train α) (shape : Shape) (index point : ℕ) (p : Tone α) : Prop where
  shape : p.shape = shape
  start : ∃ x d, pick s.starts index = .ok x ∧ pick s.deltas index = .ok d ∧ p.start = x + d * point
  phase : p.phase ∈ s.phases

lemma mem_of_pick {β : Type} {xs : List β} {i : ℤ} {x : β} (found : pick xs i = .ok x) : x ∈ xs := by
  unfold pick at found
  split at found
  · rename_i here
    obtain rfl := Except.ok.inj found
    unfold Text.item? at here
    split at here
    · simp only [Option.ite_none_left_eq_some] at here
      exact List.mem_of_getElem? here.2
    · exact List.mem_of_getElem? here
  · cases found

lemma made_of_tone (made : s.tone shape index point = .ok p) : Made s shape index point p := by
  simp only [tone, bind_eq_ok] at made
  obtain ⟨x, start, d, delta, _, -, phase, turned, _, -, _, -, _, -, _, -, _, -, _, -, made⟩ := made
  obtain rfl := Except.ok.inj made
  exact ⟨rfl, ⟨x, d, start, delta, rfl⟩, mem_of_pick turned⟩

lemma made_of_pulseAt (found : s.pulseAt size shape index point = .ok (some (p, n))) : Made s shape index point p := by
  simp only [pulseAt, bind_eq_ok] at found
  obtain ⟨_, -, _, -, _, -, found⟩ := found
  split at found
  · cases found
  obtain ⟨_, -, found⟩ := bind_eq_ok.mp found
  split at found
  · cases found
  obtain ⟨q, made, found⟩ := bind_eq_ok.mp found
  obtain ⟨rfl, -⟩ := Prod.mk.inj (Option.some.inj (Except.ok.inj found))
  exact made_of_tone made

lemma putAll_fixed (fixed : p.isRandom = false) (x y : α) : putAll c x b p n = putAll c y b p n := by
  have mono (i : ℤ) : monoPhases c.rate p i x = monoPhases c.rate p i y := by
    unfold monoPhases
    rw [fixed]
    cases p.shape <;> rfl
  have stereo (i : ℤ) (turn : List α) : stereoPhases c.rate p i x turn = stereoPhases c.rate p i y turn := by
    unfold stereoPhases
    rw [fixed]
    cases p.shape <;> rfl
  unfold putAll putMono putStereo
  simp only [mono, stereo]

lemma fillPulse_fixed (fixed : s.Fixed) (x y : α) :
    fillPulse c s shape index point x b = fillPulse c s shape index point y b := by
  unfold fillPulse
  rcases found : s.pulseAt c.size shape index point with e | _ | ⟨p, n⟩
  · rfl
  · rfl
  · exact putAll_fixed (fixed _ (made_of_pulseAt found).phase) x y

/-- Writes the pulses from number `index` on, with nothing drawn. -/
def write (c : Setting α) (s : Train α) (point : ℕ) : ℕ → List (Option Shape) → Array ℤ → Outcome (Array ℤ)
  | _, [], b => .ok b
  | _, some .blank :: _, b => .ok b
  | index, some shape :: rest, b => fillPulse c s shape index point one b >>= write c s point (index + 1) rest
  | index, none :: rest, b => write c s point (index + 1) rest b

lemma carry_fillFrom (fixed : s.Fixed) (shapes : List (Option Shape)) (k : ℕ) :
    (carry (fillFrom c draws s point index shapes b) k).1 = write c s point index shapes b := by
  induction shapes generalizing index b k with
  | nil => rfl
  | cons shape rest ih =>
    have drawn : carry (randomAngle draws) k = (.ok (fullTurn * draws k), k + 1) := rfl
    have pulse (shape : Shape) : (carry ((liftM (fillPulse c s shape index point (fullTurn * draws k) b) : Drawing _) >>=
        fillFrom c draws s point (index + 1) rest) (k + 1)).1 =
          fillPulse c s shape index point one b >>= write c s point (index + 1) rest := by
      rw [fillPulse_fixed fixed _ one]
      rcases fillPulse c s shape index point one b with e | b
      · rfl
      · exact ih (k + 1)
    rw [fillFrom, carry_bind, drawn]
    rcases shape with _ | shape
    · exact ih (k + 1)
    · cases shape with
      | blank => rfl
      | _ => exact pulse _

lemma carry_pointBuffer (fixed : s.Fixed) (k : ℕ) :
    (carry (pointBuffer c draws s point) k).1 = write c s point 0 s.shapes (silence c.stereo c.size) :=
  carry_fillFrom fixed s.shapes k

lemma write_congr {s' : Train α} {shapes : List (Option Shape)} (same : ∀ shape, ∀ i < index + shapes.length,
      s.pulseAt c.size shape i point = s'.pulseAt c.size shape i point) :
    write c s point index shapes b = write c s' point index shapes b := by
  induction shapes generalizing index b with
  | nil => rfl
  | cons shape rest ih =>
    have later (b : Array ℤ) : write c s point (index + 1) rest b = write c s' point (index + 1) rest b :=
      ih fun shape i below => same shape i (by rw [length_cons]; omega)
    have pulse (shape : Shape) : fillPulse c s shape index point one b = fillPulse c s' shape index point one b := by
      rw [fillPulse, same shape index (by rw [length_cons]; omega), fillPulse]
    rcases shape with _ | shape
    · exact later b
    · cases shape with
      | blank => rfl
      | _ => simp only [write, pulse, funext later]

lemma write_append (first later : List (Option Shape)) : write c s point index (first ++ later) b =
    if some .blank ∈ first then write c s point index first b
    else write c s point index first b >>= write c s point (index + first.length) later := by
  induction first generalizing index b with
  | nil => rfl
  | cons shape first ih =>
    have length : index + 1 + first.length = index + (first.length + 1) := by omega
    rcases shape with _ | shape
    · simp [write, ih, length]
    · by_cases blank : shape = .blank
      · simp [blank, write]
      · have other : ¬ some Shape.blank = some shape := by simpa [eq_comm] using blank
        have step (rest : List (Option Shape)) : write c s point index (some shape :: rest) b =
            fillPulse c s shape index point one b >>= write c s point (index + 1) rest :=
          write.eq_3 _ _ _ _ _ _ _ blank
        simp only [cons_append, step, length_cons, ← length, mem_cons, other, false_or, bind_assoc]
        by_cases ends : some .blank ∈ first
        all_goals
          simp only [ends, if_true, if_false]
          exact bind_congr fun b => by simp [ih, ends]

lemma write_blank {shapes : List (Option Shape)} (blank : shapes[n]? = some (some .blank)) :
    write c s point index shapes b = write c s point index (shapes.take n) b := by
  obtain ⟨inside, blank⟩ := List.getElem?_eq_some_iff.mp blank
  conv_lhs => rw [← take_append_drop n shapes, drop_eq_getElem_cons inside, blank]
  rw [write_append, ite_eq_left_iff]
  intro
  rcases write c s point index (shapes.take n) b with f | b <;> rfl

/-! ### Blank pulses -/

/-- The properties of a pulse that is put into a train. -/
structure Entry (α : Type) where
  start : ℤ
  delta : ℤ
  length : ℤ
  phase : α
  sigma : α
  frequency : Option (Frequency α)
  steepness : α
  truncation : α

/-- A train with a blank pulse at place `j`. -/
def withBlank (s : Train α) (j : ℕ) (e : Entry α) : Train α where
  shapes := s.shapes.insertIdx j (some .blank)
  starts := s.starts.insertIdx j e.start
  deltas := s.deltas.insertIdx j e.delta
  lengths := s.lengths.insertIdx j e.length
  phases := s.phases.insertIdx j e.phase
  sigmas := s.sigmas.insertIdx j e.sigma
  frequencies := s.frequencies.insertIdx j e.frequency
  steepnesses := s.steepnesses.insertIdx j e.steepness
  wholeSteepness := s.wholeSteepness
  truncations := s.truncations.insertIdx j e.truncation

lemma pick_insertIdx {β : Type} (xs : List β) (x : β) (before : index < j) :
    pick (xs.insertIdx j x) index = pick xs index := by
  have place : ¬ (index : ℤ) < 0 := by omega
  simp [pick, Text.item?, place, getElem?_insertIdx_of_lt before]

lemma pulseAt_withBlank (e : Entry α) (before : index < j) :
    (s.withBlank j e).pulseAt size shape index point = s.pulseAt size shape index point := by
  simp only [pulseAt, readAhead, tone, pickIf, withBlank, pick_insertIdx _ _ before]

/-- **A blank pulse ends the point.** Putting one into a train leaves of a point what the pulses before it write. The point is
unchanged exactly where it has ended before, or where the pulses after that place write nothing new. -/
theorem pointBuffer_withBlank (fixed : s.Fixed) (inside : j ≤ s.shapes.length) (e : Entry α)
    (turned : isZero (e.phase - ofInt 1000) = false) (point k k' : ℕ) :
    let first : Train α := { s with shapes := s.shapes.take j }
    let played (s : Train α) (k : ℕ) := (carry (pointBuffer c draws s point) k).1
    played (s.withBlank j e) k = played first k' ∧
      (played (s.withBlank j e) k = played s k' ↔ some .blank ∈ s.shapes.take j ∨
        ∀ b, played first k' = .ok b → (carry (fillFrom c draws s point j (s.shapes.drop j) b) k').1 = .ok b) := by
  intro first played
  have still : (s.withBlank j e).Fixed := by
    intro phase found
    rcases eq_or_mem_of_mem_insertIdx found with rfl | found
    · exact turned
    · exact fixed phase found
  have whole : played s k' = write c s point 0 (s.shapes.take j ++ s.shapes.drop j) (silence c.stereo c.size) := by
    rw [take_append_drop]
    exact carry_pointBuffer fixed k'
  have before : played first k' = write c s point 0 (s.shapes.take j) (silence c.stereo c.size) :=
    (carry_pointBuffer (s := first) fixed k').trans (write_congr fun _ _ _ => rfl)
  have ended : played (s.withBlank j e) k = played first k' := by
    have blank : (s.withBlank j e).shapes[j]? = some (some .blank) := by simp [withBlank, getElem?_insertIdx_self, inside]
    have kept : (s.withBlank j e).shapes.take j = s.shapes.take j := take_insertIdx_eq_take_of_le _ _ _ _ le_rfl
    rw [before, ← kept]
    refine ((carry_pointBuffer still k).trans (write_blank blank)).trans (write_congr fun shape i below => ?_)
    exact pulseAt_withBlank e (below.trans_le (by simp))
  refine ⟨ended, ?_⟩
  rw [ended, whole, write_append, ← before, length_take_of_le inside, Nat.zero_add]
  simp only [carry_fillFrom fixed]
  by_cases blank : some .blank ∈ s.shapes.take j
  · simp [blank]
  · rcases played first k' with f | b
    · simp [blank]
      rfl
    · simp [blank, eq_comm]

/-- One steady pulse of 1 MHz. -/
noncomputable def steadyTrain (start : ℤ) (phase : ℝ) : Train ℝ where
  shapes := [some .sine]
  starts := [start]
  deltas := [0]
  lengths := [1]
  phases := [phase]
  sigmas := [1]
  frequencies := [some (.steady 1)]
  steepnesses := [1]
  wholeSteepness := false
  truncations := [1]

lemma fixed_steadyTrain (start : ℤ) {phase : ℝ} (turned : phase ≠ 1000) : (steadyTrain start phase).Fixed := by
  intro x found
  obtain rfl := mem_singleton.mp found
  simpa [sub_eq_zero] using turned

lemma quarter_ne : Real.pi / 2 ≠ 1000 := by
  have := Real.pi_le_four
  intro same
  linarith

noncomputable def steadyTone (start : ℤ) (phase : ℝ) : Tone ℝ where
  channel := 0
  shape := .sine
  frequency := .steady 1
  phase := phase
  length := 1
  sigma := 1
  start := start
  deltaStart := 0
  attenuation := 1
  steepness := 1
  truncation := 1

lemma carry_steadyTrain (c : Setting ℝ) {start : ℤ} (inside : start < c.size) {phase : ℝ} (turned : phase ≠ 1000) :
    (carry (pointBuffer c 0 (steadyTrain start phase) 0) 0).1 =
      putAll c 1 (silence c.stereo c.size) (steadyTone start phase) (min (c.size - start) 2).toNat := by
  have found : (steadyTrain start phase).pulseAt c.size .sine 0 0 =
      .ok (some (steadyTone start phase, (min (c.size - start) 2).toNat)) := by
    simp [pulseAt, readAhead, tone, steadyTrain, steadyTone, pick, Text.item?, frequencyFor, steadyOnly, Shape.isSwept,
      pickIf, checkPower, inside.not_ge]
  rw [carry_pointBuffer (fixed_steadyTrain start turned)]
  change fillPulse c (steadyTrain start phase) .sine 0 0 one (silence c.stereo c.size) >>= Except.ok = _
  rw [fillPulse, found, one_eq]
  exact bind_pure (m := Outcome) _

theorem withBlank_last : 1 ≤ (steadyTrain 0 (Real.pi / 2)).shapes.length ∧
    (carry (pointBuffer ⟨4, true, 1, 0⟩ 0 ((steadyTrain 0 (Real.pi / 2)).withBlank 1 ⟨0, 0, 1, 0, 1, none, 1, 1⟩) 0) 0).1 =
      (carry (pointBuffer ⟨4, true, 1, 0⟩ 0 (steadyTrain 0 (Real.pi / 2)) 0) 0).1 :=
  ⟨le_rfl, (pointBuffer_withBlank (fixed_steadyTrain 0 quarter_ne) le_rfl _ (by simp) 0 0 0).2.mpr (.inr fun _ _ => rfl)⟩

/-- A blank pulse before a steady one silences it. -/
theorem withBlank_first :
    (carry (pointBuffer ⟨4, false, 1, 0⟩ 0 (steadyTrain 0 (Real.pi / 2)) 0) 0).1 = .ok #[32767] ∧
      (carry (pointBuffer ⟨4, false, 1, 0⟩ 0 ((steadyTrain 0 (Real.pi / 2)).withBlank 0 ⟨0, 0, 1, 0, 1, none, 1, 1⟩) 0) 0).1 =
        .ok #[0] := by
  refine ⟨?_, rfl⟩
  rw [carry_steadyTrain _ (by decide) quarter_ne]
  simp [putAll, putMono, valueAt, monoPhases, Tone.isRandom, sub_eq_zero, quarter_ne, steadyTone, Tone.gain, Tone.envelope,
    Tone.angle, Tone.ends, Tone.steadyAngle, Tone.total, maxCode, silence]
  rfl

/-! ### Two channels -/

/-- The first of two channels computes the samples of a pulse as a single channel does. -/
def PlayedAlike (s : Train α) (point : ℕ) (shape : Shape) (index : ℕ) : Prop :=
  shape ≠ .sech ∧
    (shape = .sine → ∀ x d, pick s.starts index = .ok x → pick s.deltas index = .ok d → x + d * point = 0)

def Doubles (b m : Array ℤ) : Prop := ∀ i, b[2 * i]? = m[i]?

lemma getElem?_firstChannel : ∀ (xs : List ℤ) (i : ℕ), (Generator.firstChannel xs)[i]? = xs[2 * i]?
  | [], _ | [_], 0 | [_], _ + 1 => by simp [Generator.firstChannel]
  | _ :: _ :: _, 0 => rfl
  | _ :: _ :: xs, i + 1 => by simpa [Generator.firstChannel, Nat.mul_add] using getElem?_firstChannel xs i

lemma Doubles.firstChannel_eq (doubles : Doubles b m) : Generator.firstChannel b.toList = m.toList := by
  apply List.ext_getElem?
  intro i
  simpa [getElem?_firstChannel] using doubles i

lemma doubles_silence (size : ℕ) : Doubles (silence true size) (silence false size) := by
  intro i
  by_cases inside : i < size
  · simp [silence, inside]
  · simp [silence, inside]

lemma Doubles.set (doubles : Doubles b m) {i : ℤ} (ahead : 0 ≤ i) (v w : ℤ) :
    Doubles ((b.setIfInBounds (2 * i).toNat v).setIfInBounds (2 * i + 1).toNat w) (m.setIfInBounds i.toNat v) := by
  obtain ⟨n, rfl⟩ := Int.eq_ofNat_of_zero_le ahead
  have even : (2 * (n : ℤ)).toNat = 2 * n := by omega
  have odd : (2 * (n : ℤ) + 1).toNat = 2 * n + 1 := by omega
  intro k
  rw [even, odd, Int.toNat_natCast, Array.getElem?_setIfInBounds_ne (by omega)]
  by_cases same : n = k
  · subst same
    have inside : 2 * n < b.size ↔ n < m.size := by
      rw [← not_le, ← not_le, ← Array.getElem?_eq_none_iff, doubles n, Array.getElem?_eq_none_iff]
    simp [Array.getElem?_setIfInBounds_self, inside]
  · rw [Array.getElem?_setIfInBounds_ne (by omega), Array.getElem?_setIfInBounds_ne same]
    exact doubles k

variable {rate : ℤ} {turn : α}

lemma doubles_put (total : ∀ x : α, ∃ n, truncate x = .ok n) (doubles : Doubles b m) (fixed : p.isRandom = false)
    (ahead : 0 ≤ p.start) (other : p.shape ≠ .sech) (steady : p.shape = .sine → p.start = 0) (x : α) (t : ℕ) :
    ∃ b' m', putStereo rate turn p x b t = .ok b' ∧ putMono rate p x m t = .ok m' ∧ Doubles b' m' := by
  have phases : stereoPhases rate p (p.start + t) x [] = monoPhases rate p (p.start + t) x := by
    unfold stereoPhases monoPhases
    rw [fixed]
    cases shape : p.shape <;> first | rfl | exact absurd shape other
  have time : (if p.shape == .sine && !p.isRandom then p.start + t else (t : ℤ)) = t := by
    rw [ite_eq_right_iff]
    intro sine
    rw [steady (by simpa [fixed] using sine), zero_add]
  obtain ⟨v, first⟩ := total (valueAt rate p t t (monoPhases rate p (p.start + t) x))
  obtain ⟨w, second⟩ := total (valueAt rate p t t (stereoPhases rate p (p.start + t) x [turn]))
  refine ⟨_, _, ?_, ?_, doubles.set (i := p.start + t) (by omega) (wrapped v) (wrapped w)⟩
  · simp only [putStereo, time, phases, first, second, ok_bind]
    rfl
  · simp only [putMono, first, ok_bind]
    rfl

lemma doubles_foldlM {f g : Array ℤ → ℕ → Outcome (Array ℤ)}
    (step : ∀ b m t, Doubles b m → ∃ b' m', f b t = .ok b' ∧ g m t = .ok m' ∧ Doubles b' m') (ts : List ℕ)
    (doubles : Doubles b m) : ∃ b' m', ts.foldlM f b = .ok b' ∧ ts.foldlM g m = .ok m' ∧ Doubles b' m' := by
  induction ts generalizing b m with
  | nil => exact ⟨b, m, rfl, rfl, doubles⟩
  | cons t ts ih =>
    obtain ⟨b', m', first, second, doubles'⟩ := step b m t doubles
    rw [foldlM_cons, foldlM_cons, first, second]
    exact ih doubles'

def Follows (x y : Outcome (Array ℤ)) : Prop :=
  (∃ f, x = .error f ∧ y = .error f) ∨ ∃ b m, x = .ok b ∧ y = .ok m ∧ Doubles b m

structure Accepted (s : Train α) : Prop where
  fixed : s.Fixed
  starts : ∀ x ∈ s.starts, 0 ≤ x
  deltas : ∀ d ∈ s.deltas, 0 ≤ d

lemma follows_fillPulse (total : ∀ x : α, ∃ n, truncate x = .ok n) (accepted : s.Accepted)
    (alike : s.PlayedAlike point shape index) (doubles : Doubles b m) (x : α) :
    Follows (fillPulse { c with stereo := true } s shape index point x b)
      (fillPulse { c with stereo := false } s shape index point x m) := by
  unfold fillPulse
  rcases found : s.pulseAt c.size shape index point with f | _ | ⟨p, n⟩
  · exact .inl ⟨f, rfl, rfl⟩
  · exact .inr ⟨b, m, rfl, rfl, doubles⟩
  · obtain ⟨rfl, ⟨x, d, start, delta, placed⟩, phase⟩ := made_of_pulseAt found
    have ahead : 0 ≤ p.start := by
      have := accepted.starts x (mem_of_pick start)
      have := accepted.deltas d (mem_of_pick delta)
      rw [placed]
      positivity
    refine .inr (doubles_foldlM (fun b m t doubles => ?_) _ doubles)
    refine doubles_put total doubles (accepted.fixed _ phase) ahead alike.1 (fun sine => ?_) _ t
    rw [placed, alike.2 sine x d start delta]

lemma follows_write (total : ∀ x : α, ∃ n, truncate x = .ok n) (accepted : s.Accepted) {shapes : List (Option Shape)}
    (alike : ∀ i shape, shapes[i]? = some (some shape) → s.PlayedAlike point shape (index + i)) (doubles : Doubles b m) :
    Follows (write { c with stereo := true } s point index shapes b)
      (write { c with stereo := false } s point index shapes m) := by
  induction shapes generalizing index b m with
  | nil => exact .inr ⟨b, m, rfl, rfl, doubles⟩
  | cons shape rest ih =>
    have later (i : ℕ) (shape : Shape) (found : rest[i]? = some (some shape)) : s.PlayedAlike point shape (index + 1 + i) := by
      rw [Nat.add_right_comm]
      exact alike (i + 1) shape found
    rcases shape with _ | shape
    · exact ih later doubles
    by_cases blank : shape = .blank
    · subst blank
      exact .inr ⟨b, m, rfl, rfl, doubles⟩
    · rw [write.eq_3 _ _ _ _ _ _ _ blank, write.eq_3 _ _ _ _ _ _ _ blank]
      have here : s.PlayedAlike point shape index := alike 0 shape rfl
      rcases follows_fillPulse (c := c) total accepted here doubles one with
        ⟨f, first, second⟩ | ⟨b', m', first, second, doubles'⟩
      · exact .inl ⟨f, by rw [first]; rfl, by rw [second]; rfl⟩
      · rw [first, second]
        exact ih later doubles'

/-- **The first of two channels is played as a single channel is**, point by point, as long as there are no hyperbolic sweeps and
steady pulses start with the point. -/
theorem firstChannel_pointBuffer (total : ∀ x : α, ∃ n, truncate x = .ok n) (accepted : s.Accepted)
    (alike : ∀ i shape, s.shapes[i]? = some (some shape) → s.PlayedAlike point shape i) (c : Setting α) (k k' : ℕ) :
    ((carry (pointBuffer { c with stereo := true } draws s point) k).1.map fun b => Generator.firstChannel b.toList) =
      (carry (pointBuffer { c with stereo := false } draws s point) k').1.map Array.toList := by
  rw [carry_pointBuffer accepted.fixed, carry_pointBuffer accepted.fixed]
  have alike' (i : ℕ) (shape : Shape) (found : s.shapes[i]? = some (some shape)) : s.PlayedAlike point shape (0 + i) := by
    rw [Nat.zero_add]
    exact alike i shape found
  rcases follows_write (c := c) total accepted alike' (doubles_silence c.size) with
    ⟨f, first, second⟩ | ⟨b, m, first, second, doubles⟩
  · rw [first, second]
    rfl
  · rw [first, second]
    exact congrArg Except.ok doubles.firstChannel_eq

theorem firstChannel_steadyTrain : (steadyTrain 0 (Real.pi / 2)).Accepted ∧
    ((carry (pointBuffer ⟨4, true, 2, 1⟩ 0 (steadyTrain 0 (Real.pi / 2)) 3) 0).1.map fun b =>
      Generator.firstChannel b.toList) =
    (carry (pointBuffer ⟨4, false, 2, 1⟩ 0 (steadyTrain 0 (Real.pi / 2)) 3) 0).1.map Array.toList := by
  have accepted : (steadyTrain 0 (Real.pi / 2)).Accepted :=
    ⟨fixed_steadyTrain 0 quarter_ne, by simp [steadyTrain], by simp [steadyTrain]⟩
  refine ⟨accepted, firstChannel_pointBuffer (fun x => ⟨cut x, rfl⟩) accepted ?_ ⟨4, true, 2, 1⟩ 0 0⟩
  rintro (_ | i) shape found
  · obtain rfl : Shape.sine = shape := by simpa [steadyTrain] using found
    exact ⟨nofun, by simp [steadyTrain, pick, Text.item?, eq_comm]⟩
  · simp [steadyTrain] at found

/-- A steady pulse that starts later is played otherwise by the first of two channels. -/
theorem firstChannel_late :
    (carry (pointBuffer ⟨4, true, 2, 0⟩ 0 (steadyTrain 1 0) 0) 0).1 = .ok #[0, 0, 32767, 32767] ∧
      (carry (pointBuffer ⟨4, false, 2, 0⟩ 0 (steadyTrain 1 0) 0) 0).1 = .ok #[0, 0] := by
  have quarter : 2 * Real.pi / 4 = Real.pi / 2 := by ring
  constructor
  · rw [carry_steadyTrain _ (by decide) (by norm_num)]
    simp [putAll, putStereo, valueAt, stereoPhases, Tone.isRandom, steadyTone, Tone.gain, Tone.envelope, Tone.angle, Tone.ends,
      Tone.steadyAngle, Tone.total, maxCode, silence, quarter]
    rfl
  · rw [carry_steadyTrain _ (by decide) (by norm_num)]
    simp [putAll, putMono, valueAt, monoPhases, Tone.isRandom, steadyTone, Tone.gain, Tone.envelope, Tone.angle, Tone.ends,
      Tone.steadyAngle, Tone.total, maxCode, silence]
    rfl

end EprBench.Waveform.Train

namespace EprBench.Waveform.Generator

def sequencer (mode : Mode) : Generator where
  limits := ⟨1900, 0, 280, 0, 0⟩
  mode := mode
  rehearsed := mode == .rehearsal
  channel := 1
  amplitude1 := 533

/-- A train of one point, with a silent pulse. -/
def quietTrain : TrainRequest where
  shapes := .list ["BLANK"]
  starts := .list [0]
  deltas := .list [0]
  lengths := .list [16]
  phases := .list ["+x"]
  sigmas := .list [16]
  frequencies := .list [50]
  points := 1
  loop := 10
  rate := 39062500
  steepnesses := .list [1]
  truncations := .list [.float 0.02]

/-- A train of one point passes its check and is not taken by a live generator. -/
theorem single_point_is_refused : (answer (takeTrain quietTrain) (sequencer .rehearsal) {}).isOk = true ∧
      (answer (takeTrain quietTrain) (sequencer .live) {}).isOk = false := by
  decide +kernel

end EprBench.Waveform.Generator
