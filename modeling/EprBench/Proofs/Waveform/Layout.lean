import EprBench.Proofs.Outcome
import EprBench.Waveform.Joined

/-! Joined buffers of two channels. Tones that follow each other write their samples at places of their own. -/
namespace EprBench.Waveform

open Scalar List Outcome

variable {n channel k k' : ℕ} {b : Array ℤ} {rate : ℤ} {α : Type}

def Tone.place (p : Tone α) (channel t : ℕ) : ℕ := 2 * (p.start.toNat + t) + channel

structure Tone.Inside (n : ℕ) (p : Tone α) : Prop where
  start : 0 ≤ p.start
  length : 0 ≤ p.length
  stop : p.start + p.length ≤ n

def InTurn (tones : List (Tone α)) : Prop := tones.Pairwise fun p q => p.start + p.length ≤ q.start

def Tone.Apart (p q : Tone α) : Prop :=
  ∀ c < 2, ∀ d < 2, ∀ t < p.length.toNat, ∀ u < q.length.toNat, p.place c t ≠ q.place d u

variable {p : Tone α}

lemma Tone.Inside.apart {q : Tone α} (first : p.Inside n) (next : q.Inside n)
    (after : p.start + p.length ≤ q.start) : p.Apart q := by
  intro c hc d hd t ht u hu same
  have start := first.start
  have length := first.length
  have later := next.start
  simp only [Tone.place] at same
  omega

/-! ### Writing -/

lemma Tone.Inside.slots (inside : p.Inside n) (known : channel < 2) :
    slots (2 * n) channel p.start (p.start + p.length) = (List.range p.length.toNat).map (p.place channel) := by
  obtain ⟨start, length, stop⟩ := inside
  have first : clampIndex (2 * n) (2 * p.start) = 2 * p.start.toNat := by
    rw [clampIndex, if_neg (by omega)]
    omega
  have last : clampIndex (2 * n) (2 * (p.start + p.length)) = 2 * (p.start.toNat + p.length.toNat) := by
    rw [clampIndex, if_neg (by omega)]
    omega
  have count : (2 * (p.start.toNat + p.length.toNat) + 1 - (2 * p.start.toNat + channel)) / 2 = p.length.toNat := by omega
  rw [Waveform.slots, first, last, count]
  refine map_congr_left fun t _ => ?_
  rw [Tone.place]
  omega

lemma Tone.Inside.place_lt (inside : p.Inside n) {t : ℕ} (known : channel < 2)
    (during : t < p.length.toNat) : p.place channel t < 2 * n := by
  obtain ⟨start, length, stop⟩ := inside
  rw [Tone.place]
  omega

lemma foldl_set {l : List (ℕ × ℤ)} (distinct : (l.map Prod.fst).Nodup) (b : Array ℤ) :
    (l.foldl (fun b e => b.setIfInBounds e.1 e.2) b).size = b.size ∧
      (∀ e ∈ l, e.1 < b.size → (l.foldl (fun b e => b.setIfInBounds e.1 e.2) b)[e.1]? = some e.2) ∧
      ∀ j, j ∉ l.map Prod.fst → (l.foldl (fun b e => b.setIfInBounds e.1 e.2) b)[j]? = b[j]? := by
  induction l generalizing b with
  | nil => simp
  | cons e l ih =>
    rw [map_cons, nodup_cons] at distinct
    obtain ⟨size, there, others⟩ := ih distinct.2 (b.setIfInBounds e.1 e.2)
    rw [Array.size_setIfInBounds] at size there
    refine ⟨size, forall_mem_cons.mpr ⟨fun inside => ?_, there⟩, fun j new => ?_⟩
    · rw [foldl_cons, others _ distinct.1, Array.getElem?_setIfInBounds_self_of_lt inside]
    · rw [map_cons, mem_cons, not_or] at new
      rw [foldl_cons, others _ new.2, Array.getElem?_setIfInBounds_ne (Ne.symm new.1)]

variable [Scalar α]

lemma Tone.Inside.write (inside : p.Inside n) (channel : ℕ) (known : channel < 2)
    (size : b.size = 2 * n) {values : List α} (length : values.length = p.length.toNat) :
    ∃ b', p.write channel b values = .ok b' ∧ b'.size = 2 * n ∧
      (∀ t < p.length.toNat, b'[p.place channel t]? = values[t]?.map stored) ∧
      ∀ j, (∀ t < p.length.toNat, j ≠ p.place channel t) → b'[j]? = b[j]? := by
  have all : p.write channel b values = .ok ((((List.range p.length.toNat).map (p.place channel)).zip
      (values.map stored)).foldl (fun b e => b.setIfInBounds e.1 e.2) b) := by
    rw [Tone.write, size, inside.slots known]
    exact if_pos (by simpa using length)
  rw [all]
  have zipped : (((List.range p.length.toNat).map (p.place channel)).zip (values.map stored)).map Prod.fst =
      (List.range p.length.toNat).map (p.place channel) := map_fst_zip (by simp [length])
  have distinct : ((List.range p.length.toNat).map (p.place channel)).Nodup := by
    refine nodup_range.map fun t u same => ?_
    simp only [Tone.place] at same
    omega
  obtain ⟨size', there, others⟩ := foldl_set (zipped.symm ▸ distinct) b
  refine ⟨_, rfl, size'.trans size, fun t during => ?_, fun j other => others j ?_⟩
  · obtain ⟨v, here⟩ : ∃ v, values[t]? = some v := ⟨_, getElem?_eq_getElem (length ▸ during)⟩
    rw [here, Option.map_some]
    refine there (p.place channel t, stored v) ?_ (size ▸ inside.place_lt known during)
    refine List.mem_iff_getElem?.mpr ⟨t, getElem?_zip_eq_some.mpr ⟨?_, ?_⟩⟩
    · rw [getElem?_map, getElem?_range during, Option.map_some]
    · rw [getElem?_map, here, Option.map_some]
  · rw [zipped]
    simpa [eq_comm] using other

/-- The samples of a tone stand in a buffer: they are as many as their places, these lie in the buffer, and each holds its
sample. -/
structure Laid (n : ℕ) (b : Array ℤ) (p : Tone α) (c : Channels α) : Prop where
  first : c.first.length = (slots (2 * n) 0 p.start (p.start + p.length)).length
  second : c.second.length = (slots (2 * n) 1 p.start (p.start + p.length)).length
  inside : ∀ channel < 2, ∀ i ∈ slots (2 * n) channel p.start (p.start + p.length), i < b.size
  samples : ∀ t < p.length.toNat, b[p.place 0 t]? = c.first[t]?.map stored ∧ b[p.place 1 t]? = c.second[t]?.map stored

def Tone.Spares (p : Tone α) (j : ℕ) : Prop := ∀ channel < 2, ∀ t < p.length.toNat, j ≠ p.place channel t

def Channels.Fit (c : Channels α) (p : Tone α) : Prop := c.first.length = p.length.toNat ∧ c.second.length = p.length.toNat

lemma Tone.Inside.writeBoth (inside : p.Inside n) (size : b.size = 2 * n) {c : Channels α} (fit : c.Fit p) :
    ∃ b', p.writeBoth b c = .ok b' ∧ b'.size = 2 * n ∧ Laid n b' p c ∧ ∀ j, p.Spares j → b'[j]? = b[j]? := by
  obtain ⟨b₁, done₁, size₁, first, others₁⟩ := inside.write 0 (by decide) size fit.1
  obtain ⟨b₂, done₂, size₂, second, others₂⟩ := inside.write 1 (by decide) size₁ fit.2
  refine ⟨b₂, by rw [Tone.writeBoth, done₁, ok_bind, done₂], size₂, ⟨?_, ?_, ?_, fun t during => ⟨?_, ?_⟩⟩, ?_⟩
  · rw [inside.slots (by decide), length_map, length_range, fit.1]
  · rw [inside.slots (by decide), length_map, length_range, fit.2]
  · intro channel known i member
    rw [inside.slots known] at member
    obtain ⟨t, during, rfl⟩ := mem_map.mp member
    exact size₂ ▸ inside.place_lt known (mem_range.mp during)
  · rw [others₂ _ fun u _ => ?_, first t during]
    simp only [Tone.place]
    omega
  · exact second t during
  · intro j spared
    rw [others₂ j (spared 1 (by decide)), others₁ j (spared 0 (by decide))]

/-! ### The samples of a tone -/

/-- The shapes that fill just their own interval. -/
def Shape.Plain (s : Shape) : Prop := s ∈ [Shape.sine, .gauss, .sinc, .blank, .wurst, .sech]

/-- The phase response that is known after a tone. A sweep without a random phase has to find one with as many values as it
has samples, or with a single one. -/
def Tone.Answered (before : Option (List α)) (p : Tone α) (after : Option (List α)) : Prop :=
  match p.shape with
  | .wurst => ∃ factors, p.turnsAt before = .ok (after, factors) ∧
      (p.isRandom = false → ∃ ts, after = some ts ∧ (ts.length = p.length.toNat ∨ ts.length = 1))
  | .sech => after = some [ofInt 0]
  | _ => after = before

lemma length_steadyValues (rate : ℤ) (p : Tone α) (phases : List α) :
    (p.steadyValues rate phases).length = p.length.toNat := by simp [Tone.steadyValues, Tone.times]

lemma length_sweepValues (rate : ℤ) (p : Tone α) (phases : List α) :
    (p.sweepValues rate phases).length = p.length.toNat := by simp [Tone.sweepValues, Tone.times]

lemma length_sechValues (rate : ℤ) (p : Tone α) (phases : List α) :
    (p.sechValues rate phases).length = p.length.toNat := by simp [Tone.sechValues, Tone.times]

lemma correctedValues_eq_ok {r : Response α} {phases vs : List α}
    (done : p.correctedValues rate r phases = .ok vs) : Response.commonLength p.length.toNat r.turns.length = .ok vs.length := by
  obtain ⟨m, common, done⟩ := bind_eq_ok.mp done
  rw [common, ← pure_eq_ok.mp done, length_map, length_range]

lemma correctedValues_ok {r : Response α} (fits : r.turns.length = p.length.toNat ∨ r.turns.length = 1)
    (rate : ℤ) (phases : List α) : ∃ vs, p.correctedValues rate r phases = .ok vs ∧ vs.length = p.length.toNat := by
  have common : Response.commonLength p.length.toNat r.turns.length = .ok p.length.toNat := by
    refine if_pos ?_
    rcases fits with same | one
    · simp [same]
    · simp [one]
  rw [Tone.correctedValues, common]
  exact ⟨_, rfl, by simp⟩

lemma carry_randomTurn (draws : ℕ → α) (p : Tone α) (k : ℕ) : ∃ r k', carry (p.randomTurn draws) k = (.ok r, k') := by
  rw [Tone.randomTurn]
  split
  · exact ⟨_, _, rfl⟩
  · exact ⟨_, _, rfl⟩

omit [Scalar α] in
lemma fit_of_each {values : List α → List α} (each : ∀ phases, (values phases).length = p.length.toNat)
    (first second : List α) : Channels.Fit ⟨values first, values second⟩ p := ⟨each first, each second⟩

lemma carry_of_ok {β γ : Type} {x : Outcome β} {a : β} (done : x = .ok a) (f : β → Drawing γ) (k : ℕ) :
    carry ((liftM x : Drawing β) >>= f) k = carry (f a) k := by
  subst done
  rfl

lemma Tone.Answered.values {before after : Option (List α)} (answered : p.Answered before after)
    (plain : p.shape.Plain) (rate : ℤ) (draws : ℕ → α) (turn : α) (k : ℕ) :
    ∃ v k', carry (p.stereoValues rate draws turn before) k = (.ok (v, after), k') ∧
      (v = none ∧ p.shape = .blank ∨ p.shape ≠ .blank ∧ ∃ c, v = some c ∧ c.Fit p) := by
  obtain ⟨r, k', random⟩ := carry_randomTurn draws p k
  rw [Tone.Answered] at answered
  rw [Tone.stereoValues]
  cases shape : p.shape with
  | sine | gauss | sinc =>
    rw [shape] at answered
    subst answered
    refine ⟨some ⟨p.steadyValues rate ([p.phase] ++ r), p.steadyValues rate ([p.phase, turn] ++ r)⟩, k', ?_,
      Or.inr ⟨nofun, _, rfl, fit_of_each (length_steadyValues rate p) _ _⟩⟩
    dsimp only
    rw [carry_bind, random]
    rfl
  | wurst =>
    rw [shape] at answered
    obtain ⟨factors, found, fits⟩ := answered
    dsimp only
    rw [carry_of_ok found]
    cases chance : p.isRandom with
    | true =>
      refine ⟨some ⟨p.sweepValues rate ([p.phase] ++ r), p.sweepValues rate ([p.phase, turn] ++ r)⟩, k', ?_,
        Or.inr ⟨nofun, _, rfl, fit_of_each (length_sweepValues rate p) _ _⟩⟩
      dsimp only
      rw [if_pos rfl, carry_bind, random]
      rfl
    | false =>
      obtain ⟨ts, rfl, same⟩ := fits chance
      obtain ⟨vs, first, length⟩ := correctedValues_ok (r := ⟨ts, factors⟩) same rate [p.phase]
      obtain ⟨ws, second, length'⟩ := correctedValues_ok (r := ⟨ts, factors⟩) same rate [p.phase, turn]
      have both : p.bothWith turn (p.correctedValues rate ⟨ts, factors⟩) [] = .ok ⟨vs, ws⟩ :=
        bind_eq_ok.mpr ⟨vs, first, bind_eq_ok.mpr ⟨ws, second, rfl⟩⟩
      refine ⟨_, k, ?_, Or.inr ⟨nofun, ⟨vs, ws⟩, rfl, length, length'⟩⟩
      dsimp only
      rw [if_neg Bool.false_ne_true, carry_of_ok both]
      rfl
  | sech =>
    rw [shape] at answered
    subst answered
    exact ⟨_, k, rfl, Or.inr ⟨nofun, _, rfl, fit_of_each (length_sechValues rate p) _ _⟩⟩
  | blank =>
    rw [shape] at answered
    subst answered
    exact ⟨none, k, rfl, Or.inl ⟨rfl, rfl⟩⟩
  | ramp | chirp | notch => simp [Shape.Plain, shape] at plain

/-! ### Filling the buffer -/

def Played (n : ℕ) (b : Array ℤ) (p : Tone α) (v : Option (Channels α)) : Prop :=
  v = none ∧ p.shape = .blank ∨ p.shape ≠ .blank ∧ ∃ c, v = some c ∧ Laid n b p c

lemma Played.of_same {b' : Array ℤ} {v : Option (Channels α)} (played : Played n b p v) (size : b'.size = b.size)
    (same : ∀ channel < 2, ∀ t < p.length.toNat, b'[p.place channel t]? = b[p.place channel t]?) : Played n b' p v := by
  rcases played with blank | ⟨sounds, c, known, laid⟩
  · exact .inl blank
  · refine .inr ⟨sounds, c, known, laid.first, laid.second, size.symm ▸ laid.inside, fun t during => ?_⟩
    rw [same 0 (by decide) t during, same 1 (by decide) t during]
    exact laid.samples t during

variable {s s' : Stereo α}

lemma Tone.Answered.fill {after : Option (List α)} (answered : p.Answered s.turns after)
    (plain : p.shape.Plain) (inside : p.Inside n) (size : s.buffer.size = 2 * n) (rate : ℤ) (draws : ℕ → α) (turn : α)
    (next : Option (Tone α)) (k : ℕ) :
    ∃ v k' b, carry (p.stereoValues rate draws turn s.turns) k = (.ok (v, after), k') ∧
      carry (fillStereo rate draws turn s p next) k = (.ok ⟨b, after⟩, k') ∧ b.size = 2 * n ∧ Played n b p v ∧
      ∀ j, (p.shape ≠ .blank → p.Spares j) → b[j]? = s.buffer[j]? := by
  obtain ⟨v, k', values, ⟨rfl, blank⟩ | ⟨sounds, c, rfl, fit⟩⟩ := answered.values plain rate draws turn k
  · refine ⟨none, k', s.buffer, values, ?_, size, Or.inl ⟨rfl, blank⟩, fun _ _ => rfl⟩
    rw [fillStereo, carry_bind, values, blank]
    rfl
  · obtain ⟨b, done, size', laid, others⟩ := inside.writeBoth size fit
    refine ⟨some c, k', b, values, ?_, size', Or.inr ⟨sounds, c, rfl, laid⟩, fun j spared => others j (spared sounds)⟩
    rw [fillStereo, carry_bind, values]
    exact carry_of_ok done _ _

/-- Each tone finds the phase response that it needs. -/
def AllAnswered : Option (List α) → List (Tone α) → Prop
  | _, [] => True
  | before, p :: rest => ∃ after, p.Answered before after ∧ AllAnswered after rest

def stereoSamples (rate : ℤ) (draws : ℕ → α) (turn : α) :
    Option (List α) → List (Tone α) → Drawing (List (Option (Channels α)))
  | _, [] => pure []
  | before, p :: rest => do
    let (v, after) ← p.stereoValues rate draws turn before
    return v :: (← stereoSamples rate draws turn after rest)

variable {tones : List (Tone α)}

lemma AllAnswered.fill (ordered : InTurn tones) (inside : ∀ p ∈ tones, p.Inside n)
    (plain : ∀ p ∈ tones, p.shape.Plain) (size : s.buffer.size = 2 * n)
    (answered : AllAnswered s.turns tones) (rate : ℤ) (draws : ℕ → α) (turn : α) (k : ℕ) :
    ∃ vs s' k', carry (stereoSamples rate draws turn s.turns tones) k = (.ok vs, k') ∧
      carry (fillAllStereo rate draws turn s tones) k = (.ok s', k') ∧ s'.buffer.size = 2 * n ∧
      Forall₂ (Played n s'.buffer) tones vs ∧
      ∀ j, (∀ p ∈ tones, p.shape ≠ .blank → p.Spares j) → s'.buffer[j]? = s.buffer[j]? := by
  induction tones generalizing s k with
  | nil => exact ⟨[], s, k, rfl, rfl, size, .nil, fun _ _ => rfl⟩
  | cons p rest ih =>
    obtain ⟨after, here, later⟩ := answered
    rw [InTurn, pairwise_cons] at ordered
    rw [forall_mem_cons] at inside plain
    obtain ⟨v, k₁, b, values, filled, size₁, played, others₁⟩ :=
      here.fill plain.1 inside.1 size rate draws turn rest.head? k
    obtain ⟨vs, s', k', samples, done, size', all, others⟩ := ih ordered.2 inside.2 plain.2 (s := ⟨b, after⟩) size₁ later k₁
    refine ⟨v :: vs, s', k', ?_, ?_, size', .cons ?_ all, fun j spared => ?_⟩
    · rw [stereoSamples, carry_bind, values]
      dsimp only
      rw [carry_bind, samples]
      rfl
    · rw [fillAllStereo, carry_bind, filled]
      exact done
    · -- the tones after this one keep off its places
      refine played.of_same (size'.trans size₁.symm) fun channel known t during => others _ fun q member _ d hd u hu => ?_
      exact inside.1.apart (inside.2 q member) (ordered.1 q member) channel known d hd t during u hu
    · rw [forall_mem_cons] at spared
      rw [others j spared.2, others₁ j spared.1]

/-! ### When it cannot be filled -/

lemma carry_lift_ok {β : Type} {x : Outcome β} {a : β} :
    carry (liftM x : Drawing β) k = (.ok a, k') ↔ x = .ok a ∧ k = k' := by
  have step : carry (liftM x : Drawing β) k = (x, k) := rfl
  simp [step]

lemma Tone.Inside.fits_of_write (inside : p.Inside n) (known : channel < 2)
    {b' : Array ℤ} (size : b.size = 2 * n) {values : List α} (done : p.write channel b values = .ok b') :
    values.length = p.length.toNat ∨ values.length = 1 := by
  rw [Tone.write, size, inside.slots known] at done
  unfold assign at done
  split at done
  case isTrue same => exact .inl (by simpa using same)
  case isFalse =>
    split at done
    case h_1 v single => exact .inr (by simpa using congrArg List.length single)
    case h_2 => simp at done

variable {draws : ℕ → α} {turn : α}

lemma fillStereo_ok {next : Option (Tone α)} (done : carry (fillStereo rate draws turn s p next) k = (.ok s', k')) :
    ∃ v t, carry (p.stereoValues rate draws turn s.turns) k = (.ok (v, s'.turns), t) ∧
      ∀ c, v = some c → ∃ b, p.write 0 s.buffer c.first = .ok b := by
  obtain ⟨⟨v, turns⟩, t, values, done⟩ := carry_bind_ok.mp done
  suffices written : turns = s'.turns ∧ ∀ c, v = some c → ∃ b, p.write 0 s.buffer c.first = .ok b from
    ⟨v, t, written.1 ▸ values, written.2⟩
  dsimp only at done
  split at done
  case h_1 c _ =>
    obtain ⟨b, _, both, done⟩ := carry_bind_ok.mp done
    obtain ⟨first, written, _⟩ := bind_eq_ok.mp (carry_lift_ok.mp both).1
    rw [← (carry_pure_ok.mp done).1]
    exact ⟨rfl, fun c' same => Option.some.inj same ▸ ⟨first, written⟩⟩
  case h_2 | h_3 =>
    obtain ⟨b, _, _, done⟩ := carry_bind_ok.mp done
    rw [← (carry_pure_ok.mp done).1]
    exact ⟨rfl, nofun⟩
  case h_4 =>
    rw [← (carry_pure_ok.mp done).1]
    exact ⟨rfl, nofun⟩

lemma fits_of_common {l m : ℕ} (common : Response.commonLength n l = .ok m) (fits : m = n ∨ m = 1) : l = n ∨ l = 1 := by
  unfold Response.commonLength at common
  split at common
  case isTrue same =>
    simp only [Bool.or_eq_true, decide_eq_true_eq] at same
    omega
  case isFalse =>
    split at common
    case isTrue => exact Except.ok.inj common ▸ fits
    case isFalse => simp at common

lemma Tone.Answered.of_fill (plain : p.shape.Plain) (inside : p.Inside n)
    {next : Option (Tone α)} (size : s.buffer.size = 2 * n)
    (done : carry (fillStereo rate draws turn s p next) k = (.ok s', k')) : p.Answered s.turns s'.turns := by
  obtain ⟨v, t, values, written⟩ := fillStereo_ok done
  rw [Tone.stereoValues] at values
  rw [Tone.Answered]
  cases shape : p.shape with
  | sine | gauss | sinc =>
    rw [shape] at values
    obtain ⟨_, _, _, values⟩ := carry_bind_ok.mp values
    obtain ⟨_, _, _, values⟩ := carry_bind_ok.mp values
    exact (congrArg Prod.snd (carry_pure_ok.mp values).1).symm
  | wurst =>
    rw [shape] at values
    obtain ⟨⟨turns, factors⟩, _, found, values⟩ := carry_bind_ok.mp values
    have found := (carry_lift_ok.mp found).1
    dsimp only at values ⊢
    cases chance : p.isRandom with
    | true =>
      rw [chance, if_pos rfl] at values
      obtain ⟨_, _, _, values⟩ := carry_bind_ok.mp values
      obtain ⟨_, _, _, values⟩ := carry_bind_ok.mp values
      have same : turns = s'.turns := congrArg Prod.snd (carry_pure_ok.mp values).1
      exact ⟨factors, same ▸ found, nofun⟩
    | false =>
      rw [chance, if_neg Bool.false_ne_true] at values
      rcases turns with - | ts
      · exact (carry_throw_ok.mp values).elim
      · obtain ⟨c, _, both, values⟩ := carry_bind_ok.mp values
        obtain ⟨vs, first, both⟩ := bind_eq_ok.mp (carry_lift_ok.mp both).1
        obtain ⟨ws, _, both⟩ := bind_eq_ok.mp both
        obtain ⟨played, same⟩ := Prod.mk.inj (carry_pure_ok.mp values).1
        obtain ⟨b, written⟩ := written c played.symm
        rw [← pure_eq_ok.mp both] at written
        refine ⟨factors, same ▸ found, fun _ => ⟨ts, same.symm, ?_⟩⟩
        exact fits_of_common (correctedValues_eq_ok first) (inside.fits_of_write (by decide) size written)
  | sech =>
    rw [shape] at values
    obtain ⟨_, _, _, values⟩ := carry_bind_ok.mp values
    exact (congrArg Prod.snd (carry_pure_ok.mp values).1).symm
  | blank =>
    rw [shape] at values
    exact (congrArg Prod.snd (carry_pure_ok.mp values).1).symm
  | ramp | chirp | notch => simp [Shape.Plain, shape] at plain

lemma AllAnswered.of_fill (inside : ∀ p ∈ tones, p.Inside n) (plain : ∀ p ∈ tones, p.shape.Plain)
    (size : s.buffer.size = 2 * n) (done : carry (fillAllStereo rate draws turn s tones) k = (.ok s', k')) :
    AllAnswered s.turns tones := by
  induction tones generalizing s k with
  | nil => trivial
  | cons p rest ih =>
    rw [forall_mem_cons] at inside plain
    obtain ⟨s₁, k₁, here, later⟩ := carry_bind_ok.mp done
    have answered := Tone.Answered.of_fill plain.1 inside.1 size here
    obtain ⟨v, k₂, b, _, filled, size₁, _⟩ := answered.fill plain.1 inside.1 size rate draws turn rest.head? k
    have same : s₁.buffer = b := congrArg Stereo.buffer (Except.ok.inj (Prod.mk.inj (here.symm.trans filled)).1)
    exact ⟨_, answered, ih inside.2 plain.2 (same ▸ size₁) later⟩

/-- A joined buffer holds the samples of its tones and is silent elsewhere. -/
structure Joined (rate : ℤ) (draws : ℕ → α) (turn : α) (n : ℕ) (tones : List (Tone α)) (k : ℕ) (b : Array ℤ) (k' : ℕ) : Prop where
  size : b.size = 2 * n
  played : ∃ vs, carry (stereoSamples rate draws turn none tones) k = (.ok vs, k') ∧ Forall₂ (Played n b) tones vs
  silent : ∀ j < 2 * n, (∀ p ∈ tones, p.shape ≠ .blank → p.Spares j) → b[j]? = some 0

lemma AllAnswered.stereoBuffer (ordered : InTurn tones) (inside : ∀ p ∈ tones, p.Inside n)
    (plain : ∀ p ∈ tones, p.shape.Plain) (answered : AllAnswered none tones) (rate : ℤ) (draws : ℕ → α) (turn : α) (k : ℕ) :
    ∃ b k', carry (stereoBuffer rate draws turn n tones) k = (.ok b, k') ∧ Joined rate draws turn n tones k b k' := by
  have size : (silence true n).size = 2 * n := by simp [silence]
  obtain ⟨vs, s', k', samples, done, size', all, others⟩ :=
    answered.fill ordered inside plain (s := { buffer := silence true n }) size rate draws turn k
  refine ⟨s'.buffer, k', ?_, size', ⟨vs, samples, all⟩, fun j within spared => ?_⟩
  · rw [Waveform.stereoBuffer, carry_bind, done]
    rfl
  · rw [others j spared]
    simp [silence, within]

lemma AllAnswered.of_stereoBuffer (inside : ∀ p ∈ tones, p.Inside n) (plain : ∀ p ∈ tones, p.shape.Plain)
    (done : carry (Waveform.stereoBuffer rate draws turn n tones) k = (.ok b, k')) : AllAnswered none tones := by
  obtain ⟨s', _, filled, _⟩ := carry_bind_ok.mp done
  exact AllAnswered.of_fill inside plain (by simp [silence]) filled

end EprBench.Waveform
