import EprBench.Proofs.Waveform.Layout
import EprBench.Proofs.Waveform.Trains

/-! Joined buffers of one channel, and the first of two channels beside them. -/
namespace EprBench.Waveform

open Scalar List Outcome

variable {n k k' : ℕ} {b : Array ℤ} {rate : ℤ} {α : Type}

/-! ### Writes -/

def put (writes : List (ℕ × ℤ)) (b : Array ℤ) : Array ℤ := writes.foldl (fun b e => b.setIfInBounds e.1 e.2) b

lemma put_append (first later : List (ℕ × ℤ)) (b : Array ℤ) : put (first ++ later) b = put later (put first b) :=
  foldl_append

@[simp] lemma put_nil (b : Array ℤ) : put [] b = b := rfl

@[simp] lemma put_cons (e : ℕ × ℤ) (writes : List (ℕ × ℤ)) (b : Array ℤ) :
    put (e :: writes) b = put writes (b.setIfInBounds e.1 e.2) := rfl

@[simp] lemma size_put (writes : List (ℕ × ℤ)) (b : Array ℤ) : (put writes b).size = b.size := by
  induction writes generalizing b with
  | nil => rfl
  | cons e writes ih => rw [put_cons, ih, Array.size_setIfInBounds]

variable [Scalar α]

/-! ### One channel -/

def sampled (x : α) : ℤ :=
  match truncate x with
  | .ok n => wrapped n
  | .error _ => 0

lemma carry_foldlM_put {β : Type} {f : Array ℤ → β → Drawing (Array ℤ)} {ws : β → List (ℕ × ℤ)} {l : List β}
    (each : ∀ x ∈ l, ∀ b, carry (f b x) k = (.ok (put (ws x) b), k)) (b : Array ℤ) :
    carry (l.foldlM f b) k = (.ok (put (l.flatMap ws) b), k) := by
  induction l generalizing b with
  | nil => rfl
  | cons x l ih =>
    rw [forall_mem_cons] at each
    rw [foldlM_cons, carry_bind, each.1, flatMap_cons, put_append]
    exact ih each.2 _

namespace Tone

/-- The value of a tone with a fixed phase in a joined buffer of one channel. -/
def joinedValue (rate : ℤ) (p : Tone α) (t : ℕ) : α :=
  let d := p.start + t - p.centre
  p.gain * p.envelope d * sin (total (p.angle rate t d p.centre) (p.phases rate (p.start + t)))

def reach (n : ℕ) (p : Tone α) : ℕ := (min (n - p.start) (p.length + 1)).toNat

def monoWrites (rate : ℤ) (n : ℕ) (p : Tone α) : List (ℕ × ℤ) :=
  if p.isPlayed then (List.range (p.reach n)).map fun t => (p.start.toNat + t, sampled (p.joinedValue rate t)) else []

def Cuts (rate : ℤ) (p : Tone α) : Prop := ∀ t ≤ p.length.toNat, ∃ v, truncate (p.joinedValue rate t) = .ok v

variable {p : Tone α} {draws : ℕ → α} {missing : Fault}

lemma carry_monoValue (fixed : p.isRandom = false) (rate : ℤ) (draws : ℕ → α) (t k : ℕ) :
    carry (p.monoValue rate draws t) k = (.ok (p.joinedValue rate t), k) := by
  rw [monoValue, fixed]
  rfl

omit [Scalar α] in
lemma Inside.reach_le (inside : p.Inside n) {t : ℕ} (during : t < p.reach n) : t ≤ p.length.toNat := by
  have := inside.length
  unfold reach at during
  omega

lemma Inside.fillMono (inside : p.Inside n) (fixed : p.isRandom = false) (heard : p.shape ≠ .sinc) (cuts : p.Cuts rate)
    (draws : ℕ → α) (missing : Fault) (b : Array ℤ) (k : ℕ) :
    carry (p.fillMono rate draws missing n b) k = (.ok (put (p.monoWrites rate n) b), k) := by
  rw [Tone.fillMono, monoWrites]
  cases played : p.isPlayed with
  | false => rfl
  | true =>
    have rule : (p.shape == .sinc) = false := by simpa using heard
    simp only [Bool.not_true, Bool.false_eq_true, if_false, if_true, rule, Bool.and_false, Bool.false_and, map_eq_flatMap]
    refine carry_foldlM_put (fun t during b => ?_) b
    obtain ⟨v, cut⟩ := cuts t (inside.reach_le (mem_range.mp during))
    have place : (p.start + t).toNat = p.start.toNat + t := by
      have := inside.start
      omega
    rw [carry_bind, carry_monoValue fixed]
    dsimp only
    rw [carry_of_ok cut, place, sampled, cut]
    rfl

lemma Inside.put_monoWrites (inside : p.Inside n) (played : p.isPlayed = true) (rate : ℤ) (size : b.size = n) :
    (∀ t ≤ p.length.toNat, p.start.toNat + t < n →
        (put (p.monoWrites rate n) b)[p.start.toNat + t]? = some (sampled (p.joinedValue rate t))) ∧
      ∀ j : ℕ, j < p.start ∨ p.start + p.length < j → (put (p.monoWrites rate n) b)[j]? = b[j]? := by
  have places : (p.monoWrites rate n).map Prod.fst = (List.range (p.reach n)).map (p.start.toNat + ·) := by
    simp [monoWrites, played]
  have distinct : ((p.monoWrites rate n).map Prod.fst).Nodup := by
    rw [places]
    exact nodup_range.map fun t u same => by simpa using same
  obtain ⟨start, length, stop⟩ := inside
  obtain ⟨_, there, others⟩ := foldl_set distinct b
  refine ⟨fun t during room => there (_, _) ?_ (size ▸ room), fun j away => others j ?_⟩
  · rw [monoWrites, if_pos played]
    refine mem_map.mpr ⟨t, mem_range.mpr ?_, rfl⟩
    unfold reach
    omega
  · rw [places]
    intro hit
    obtain ⟨t, during, rfl⟩ := mem_map.mp hit
    rw [mem_range, reach] at during
    omega

end Tone

structure Spread (rate : ℤ) (n : ℕ) (tones : List (Tone α)) (b m : Array ℤ) : Prop where
  size : m.size = n
  samples : ∀ p ∈ tones, p.isPlayed → ∀ t < p.length.toNat, m[p.start.toNat + t]? = some (sampled (p.joinedValue rate t))
  tails : ∀ p ∈ tones, p.isPlayed → p.start + p.length < n → (∀ q ∈ tones, q.isPlayed → q.start ≠ p.start + p.length) →
    m[p.start.toNat + p.length.toNat]? = some (sampled (p.joinedValue rate p.length.toNat))
  others : ∀ j : ℕ, (∀ p ∈ tones, p.isPlayed → j < p.start ∨ p.start + p.length < j) → m[j]? = b[j]?

lemma spread_monoWrites {tones : List (Tone α)} (ordered : InTurn tones) (inside : ∀ p ∈ tones, p.Inside n)
    (size : b.size = n) : Spread rate n tones b (put (tones.flatMap (Tone.monoWrites rate n)) b) := by
  induction tones generalizing b with
  | nil => exact ⟨size, by simp, by simp, fun _ _ => rfl⟩
  | cons p rest ih =>
    rw [InTurn, pairwise_cons] at ordered
    rw [forall_mem_cons] at inside
    rw [flatMap_cons, put_append]
    obtain ⟨size', samples, tails, others⟩ := ih ordered.2 inside.2 (b := put (p.monoWrites rate n) b) (by simpa using size)
    -- what the tones after the first one leave of it
    have kept (j : ℕ) (before : j < p.start + p.length) :
        (put (rest.flatMap (Tone.monoWrites rate n)) (put (p.monoWrites rate n) b))[j]? = (put (p.monoWrites rate n) b)[j]? := by
      refine others j fun q member _ => ?_
      have := ordered.1 q member
      omega
    obtain ⟨start, length, stop⟩ := inside.1
    refine ⟨size', forall_mem_cons.mpr ⟨fun played t during => ?_, samples⟩,
      forall_mem_cons.mpr ⟨fun played room free => ?_, fun q member played room free => ?_⟩,
      fun j away => ?_⟩
    · rw [kept _ (by omega)]
      exact (inside.1.put_monoWrites played rate size).1 t (by omega) (by omega)
    · rw [others _ fun q member sounds => ?_]
      · exact (inside.1.put_monoWrites played rate size).1 _ le_rfl (by omega)
      · have := ordered.1 q member
        have := free q (mem_cons_of_mem _ member) sounds
        omega
    · exact tails q member played room fun r there => free r (mem_cons_of_mem _ there)
    · rw [forall_mem_cons] at away
      rw [others j away.2]
      by_cases played : p.isPlayed
      · exact (inside.1.put_monoWrites played rate size).2 j (away.1 played)
      · simp [Tone.monoWrites, played]

/-- Plain tones of at least one sample that come in turn and have room in a buffer. -/
structure Placed (n : ℕ) (tones : List (Tone α)) : Prop where
  ordered : InTurn tones
  inside : ∀ p ∈ tones, p.Inside n
  long : ∀ p ∈ tones, 0 < p.length
  plain : ∀ p ∈ tones, p.shape.Plain

variable {tones : List (Tone α)} {draws : ℕ → α} {missing : Fault} {turn : α} {m : Array ℤ}

lemma Placed.monoBuffer (placed : Placed n tones) (fixed : ∀ p ∈ tones, p.isRandom = false)
    (heard : ∀ p ∈ tones, p.shape ≠ .sinc) (cuts : ∀ p ∈ tones, p.Cuts rate) (draws : ℕ → α) (missing : Fault) (k : ℕ) :
    ∃ m, carry (monoBuffer rate draws missing n tones) k = (.ok m, k) ∧ Spread rate n tones (silence false n) m := by
  refine ⟨_, carry_foldlM_put (fun p member b => ?_) _, spread_monoWrites placed.ordered placed.inside (by simp [silence])⟩
  exact (placed.inside p member).fillMono (fixed p member) (heard p member) (cuts p member) draws missing b k

lemma heard_of_foldlM (inside : ∀ p ∈ tones, p.Inside n) (long : ∀ p ∈ tones, 0 < p.length)
    (fixed : ∀ p ∈ tones, p.isRandom = false) {b : Array ℤ}
    (done : carry (tones.foldlM (Tone.fillMono rate draws missing n) b) k = (.ok m, k')) :
    ∀ p ∈ tones, p.shape ≠ .sinc := by
  induction tones generalizing b k with
  | nil => simp
  | cons p rest ih =>
    rw [forall_mem_cons] at inside long fixed ⊢
    obtain ⟨b₁, k₁, here, later⟩ := carry_bind_ok.mp done
    refine ⟨fun cardinal => ?_, ih inside.2 long.2 fixed.2 later⟩
    have room : 0 < (min (n - p.start) (p.length + 1)).toNat := by
      have := inside.1.stop
      have := long.1
      omega
    have played : p.isPlayed = true := by simp [Tone.isPlayed, cardinal]
    simp only [Tone.fillMono, played, cardinal, fixed.1, room, decide_true, beq_self_eq_true, Bool.not_true, Bool.not_false,
      Bool.and_true, Bool.false_eq_true, if_true, if_false] at here
    exact (carry_throw_ok.mp here).elim

lemma Placed.of_stereoBuffer (placed : Placed n tones) (done : (carry (stereoBuffer rate draws turn n tones) k).1 = .ok b) :
    AllAnswered none tones ∧ ∃ k', Joined rate draws turn n tones k b k' := by
  have answered := AllAnswered.of_stereoBuffer placed.inside placed.plain (Prod.ext done rfl)
  obtain ⟨b', k', built, joined⟩ := answered.stereoBuffer placed.ordered placed.inside placed.plain rate draws turn k
  obtain rfl : b' = b := by simpa [built] using done
  exact ⟨answered, k', joined⟩

lemma Placed.of_monoBuffer (placed : Placed n tones) (fixed : ∀ p ∈ tones, p.isRandom = false)
    (cuts : ∀ p ∈ tones, p.Cuts rate) (done : (carry (Waveform.monoBuffer rate draws missing n tones) k).1 = .ok m) :
    (∀ p ∈ tones, p.shape ≠ .sinc) ∧ Spread rate n tones (silence false n) m := by
  have heard := heard_of_foldlM placed.inside placed.long fixed (Prod.ext done rfl)
  obtain ⟨m', single, spread⟩ := placed.monoBuffer fixed heard cuts draws missing k
  obtain rfl : m' = m := by simpa [single] using done
  exact ⟨heard, spread⟩

lemma Placed.stereoBuffer_isOk (placed : Placed n tones) :
    (carry (stereoBuffer rate draws turn n tones) k).1.isOk = true ↔ AllAnswered none tones := by
  constructor
  · intro done
    obtain ⟨b, done⟩ := exists_of_isOk done
    exact (placed.of_stereoBuffer done).1
  · intro answered
    obtain ⟨b, k', built, _⟩ := answered.stereoBuffer placed.ordered placed.inside placed.plain rate draws turn k
    rw [built]
    rfl

lemma Placed.monoBuffer_isOk (placed : Placed n tones) (fixed : ∀ p ∈ tones, p.isRandom = false)
    (cuts : ∀ p ∈ tones, p.Cuts rate) :
    (carry (Waveform.monoBuffer rate draws missing n tones) k).1.isOk = true ↔ ∀ p ∈ tones, p.shape ≠ .sinc := by
  constructor
  · intro done
    obtain ⟨m, done⟩ := exists_of_isOk done
    exact (placed.of_monoBuffer fixed cuts done).1
  · intro heard
    obtain ⟨m, built, _⟩ := placed.monoBuffer fixed heard cuts draws missing k
    rw [built]
    rfl

/-! ### The first channel -/

/-- All values of a tone are whole numbers of 64 bits once they are cut. -/
def Tone.Storable (rate : ℤ) (p : Tone α) : Prop :=
  ∀ t ≤ p.length.toNat, ∃ v, truncate (p.joinedValue rate t) = .ok v ∧ -(twoTo 63 : ℤ) ≤ v ∧ v < twoTo 63

variable {p : Tone α}

lemma Tone.Storable.cuts (storable : p.Storable rate) : p.Cuts rate := by
  intro t during
  obtain ⟨v, cut, _⟩ := storable t during
  exact ⟨v, cut⟩

lemma Tone.Storable.stored_eq (storable : p.Storable rate) {t : ℕ} (during : t ≤ p.length.toNat) :
    stored (p.joinedValue rate t) = sampled (p.joinedValue rate t) := by
  obtain ⟨v, cut, low, high⟩ := storable t during
  simp only [stored, sampled, cut]
  rw [if_pos (by simpa using ⟨low, high⟩)]

def FirstAlike (rate : ℤ) (p : Tone α) (v : Option (Channels α)) : Prop :=
  ∀ c, v = some c → ∀ t < p.length.toNat, c.first[t]?.map stored = some (sampled (p.joinedValue rate t))

variable {vs : List (Option (Channels α))}

lemma stereoSamples_each {before : Option (List α)}
    (done : carry (stereoSamples rate draws turn before tones) k = (.ok vs, k')) :
    Forall₂ (fun p v => ∃ before after i j,
      carry (p.stereoValues rate draws turn before) i = (.ok (v, after), j)) tones vs := by
  induction tones generalizing before k k' vs with
  | nil =>
    obtain ⟨rfl, _⟩ := carry_pure_ok.mp done
    exact .nil
  | cons p rest ih =>
    obtain ⟨⟨v, after⟩, k₁, here, done⟩ := carry_bind_ok.mp done
    obtain ⟨vs', k₂, later, done⟩ := carry_bind_ok.mp done
    obtain ⟨rfl, _⟩ := carry_pure_ok.mp done
    exact .cons ⟨before, after, k, k₁, here⟩ (ih later)

lemma firstAlike_of_steady (plain : p.shape.Plain) (steady : p.shape.isSwept = false)
    (fixed : p.isRandom = false) (storable : p.Storable rate) {before after : Option (List α)} {v : Option (Channels α)}
    (done : carry (p.stereoValues rate draws turn before) k = (.ok (v, after), k')) : FirstAlike rate p v := by
  rintro c rfl t during
  have phases (i : ℤ) : p.phases rate i = [p.phase] := by
    unfold Tone.phases
    cases shape : p.shape <;> first | rfl | simp [shape, Shape.isSwept] at steady
  have values : c.first = p.steadyValues rate [p.phase] := by
    rw [Tone.stereoValues] at done
    cases shape : p.shape with
    | sine | gauss | sinc =>
      rw [shape] at done
      have undrawn : carry (p.randomTurn draws) k = (.ok [], k) := by
        rw [Tone.randomTurn, fixed]
        rfl
      rw [carry_bind, undrawn] at done
      have both := (Prod.mk.inj (carry_pure_ok.mp done).1).1
      exact (congrArg Channels.first (Option.some.inj both)).symm
    | blank =>
      rw [shape] at done
      cases (Prod.mk.inj (carry_pure_ok.mp done).1).1
    | wurst | sech | chirp => simp [shape, Shape.isSwept] at steady
    | ramp | notch => simp [Shape.Plain, shape] at plain
  rw [values, ← storable.stored_eq during.le]
  simp [Tone.steadyValues, Tone.times, Tone.joinedValue, phases, during]

def TailsSilent (rate : ℤ) (n : ℕ) (tones : List (Tone α)) : Prop :=
  ∀ p ∈ tones, p.isPlayed → p.start + p.length < n →
    (∃ q ∈ tones, q.isPlayed ∧ q.start = p.start + p.length) ∨ sampled (p.joinedValue rate p.length.toNat) = 0

/-- What has to be for the first of two channels to be a single one: each sweep finds the phase response that it needs and its
samples are those without one, there is no cardinal sine, and nothing is heard of the samples after the tones. -/
structure Alike (rate : ℤ) (draws : ℕ → α) (turn : α) (n : ℕ) (tones : List (Tone α)) (k : ℕ) : Prop where
  answered : AllAnswered none tones
  heard : ∀ p ∈ tones, p.shape ≠ .sinc
  sweeps : ∀ vs k', carry (stereoSamples rate draws turn none tones) k = (.ok vs, k') →
    Forall₂ (fun p v => p.shape.isSwept → FirstAlike rate p v) tones vs
  tails : TailsSilent rate n tones

omit [Scalar α] in
lemma Placed.apart (placed : Placed n tones) {q : Tone α} (first : p ∈ tones) (second : q ∈ tones) (other : p ≠ q) :
    p.start + p.length ≤ q.start ∨ q.start + q.length ≤ p.start := by
  have pairs : tones.Pairwise fun p q => p.start + p.length ≤ q.start ∨ q.start + q.length ≤ p.start :=
    placed.ordered.imp Or.inl
  have symmetric : Std.Symm fun p q : Tone α => p.start + p.length ≤ q.start ∨ q.start + q.length ≤ p.start :=
    ⟨fun _ _ => Or.symm⟩
  exact pairs.forall first second other

omit [Scalar α] in
lemma Shape.Plain.isPlayed (plain : p.shape.Plain) : p.isPlayed = true ↔ p.shape ≠ .blank := by
  unfold Tone.isPlayed
  cases shape : p.shape <;> simp [Shape.Plain, shape] at plain ⊢

/-- A place of the first channel at which no tone is played. -/
def Free (tones : List (Tone α)) (j : ℕ) : Prop := ∀ p ∈ tones, p.isPlayed → j < p.start ∨ p.start + p.length ≤ j

lemma Joined.free (joined : Joined rate draws turn n tones k b k') (placed : Placed n tones) {j : ℕ} (inside : j < n)
    (free : Free tones j) : b[2 * j]? = some 0 := by
  refine joined.silent _ (by omega) fun p member sounds channel known t during hit => ?_
  have := free p member ((placed.plain p member).isPlayed.mpr sounds)
  have := (placed.inside p member).start
  rw [Tone.place] at hit
  omega

lemma firstAlike_all (placed : Placed n tones) (fixed : ∀ p ∈ tones, p.isRandom = false)
    (storable : ∀ p ∈ tones, p.Storable rate)
    (samples : carry (stereoSamples rate draws turn none tones) k = (.ok vs, k'))
    (sweeps : Forall₂ (fun p v => p.shape.isSwept → FirstAlike rate p v) tones vs) :
    Forall₂ (FirstAlike rate) tones vs := by
  have each := (forall₂_and_left tones vs).mpr ⟨fun p member => member, stereoSamples_each samples⟩
  refine each.mp (fun p v made alike => ?_) sweeps
  obtain ⟨member, before, after, i, j, done⟩ := made
  cases steady : p.shape.isSwept with
  | true => exact alike steady
  | false => exact firstAlike_of_steady (placed.plain p member) steady (fixed p member) (storable p member) done

lemma Played.first {v : Option (Channels α)} (played : Played n b p v) (sounds : p.shape ≠ .blank) :
    ∃ c, v = some c ∧ ∀ t < p.length.toNat, b[2 * (p.start.toNat + t)]? = c.first[t]?.map stored := by
  obtain ⟨-, blank⟩ | ⟨-, c, known, laid⟩ := played
  · exact absurd blank sounds
  · exact ⟨c, known, fun t during => (laid.samples t during).1⟩

open Train in
lemma sweeps_of_doubles (placed : Placed n tones) (doubles : Doubles b m) (spread : Spread rate n tones (silence false n) m)
    (played : Forall₂ (Played n b) tones vs) :
    Forall₂ (fun p v => p.shape.isSwept → FirstAlike rate p v) tones vs := by
  refine ((forall₂_and_left tones vs).mpr ⟨fun p member => member, played⟩).imp fun p v both swept c here t during => ?_
  obtain ⟨member, laid⟩ := both
  have sounds : p.shape ≠ .blank := by
    intro blank
    simp [blank, Shape.isSwept] at swept
  obtain ⟨c', same, first⟩ := laid.first sounds
  obtain rfl := Option.some.inj (here.symm.trans same)
  rw [← first t during, doubles, spread.samples p member ((placed.plain p member).isPlayed.mpr sounds) t during]

open Train in
lemma tails_of_doubles (placed : Placed n tones) (doubles : Doubles b m) (joined : Joined rate draws turn n tones k b k')
    (spread : Spread rate n tones (silence false n) m) : TailsSilent rate n tones := by
  intro p member played room
  rw [or_iff_not_imp_left]
  intro none
  have off (q : Tone α) (there : q ∈ tones) (sounds : q.isPlayed) : q.start ≠ p.start + p.length :=
    fun same => none ⟨q, there, sounds, same⟩
  have start := (placed.inside p member).start
  have length := placed.long p member
  have stop : ((p.start.toNat + p.length.toNat : ℕ) : ℤ) = p.start + p.length := by omega
  have free : Free tones (p.start.toNat + p.length.toNat) := by
    intro q there sounds
    have := off q there sounds
    by_cases same : p = q
    · subst same
      omega
    · have := placed.apart member there same
      omega
  have tail := spread.tails p member played room off
  rw [← doubles, joined.free placed (by omega) free] at tail
  exact (Option.some.inj tail).symm

open Train in
lemma doubles_of_alike (placed : Placed n tones) (joined : Joined rate draws turn n tones k b k')
    (spread : Spread rate n tones (silence false n) m)
    (played : Forall₂ (Played n b) tones vs) (alike : Forall₂ (FirstAlike rate) tones vs)
    (tails : TailsSilent rate n tones) : Doubles b m := by
  intro j
  by_cases inside : j < n
  swap
  · rw [Array.getElem?_eq_none (by rw [joined.size]; omega), Array.getElem?_eq_none (by rw [spread.size]; omega)]
  by_cases free : Free tones j
  · rw [joined.free placed inside free]
    have silent : (silence false n)[j]? = some 0 := by simp [silence, inside]
    by_cases after : ∃ p ∈ tones, p.isPlayed ∧ p.start + p.length = j
    · obtain ⟨p, member, sounds, stop⟩ := after
      -- a tone that starts here would be played here
      have off (q : Tone α) (there : q ∈ tones) (heard : q.isPlayed) : q.start ≠ p.start + p.length := by
        have := free q there heard
        have := placed.long q there
        omega
      have zero : sampled (p.joinedValue rate p.length.toNat) = 0 := by
        rcases tails p member sounds (by omega) with ⟨q, there, heard, same⟩ | zero
        · exact absurd same (off q there heard)
        · exact zero
      have tail := spread.tails p member sounds (by omega) off
      have start := (placed.inside p member).start
      have length := (placed.inside p member).length
      rw [zero, show p.start.toNat + p.length.toNat = j by omega] at tail
      exact tail.symm
    · rw [spread.others j fun p member sounds => ?_, silent]
      have := free p member sounds
      have : p.start + p.length ≠ j := fun same => after ⟨p, member, sounds, same⟩
      omega
  · simp only [Free, not_forall, not_or, not_lt, not_le] at free
    obtain ⟨p, member, sounds, first, last⟩ := free
    have start := (placed.inside p member).start
    have both := played.mp (fun p v laid same => And.intro laid same) alike
    obtain ⟨v, _, laid, same⟩ := exists_of_mem_left both member
    obtain ⟨c, rfl, channel⟩ := laid.first ((placed.plain p member).isPlayed.mp sounds)
    obtain ⟨t, rfl⟩ : ∃ t, j = p.start.toNat + t := ⟨j - p.start.toNat, by omega⟩
    have during : t < p.length.toNat := by omega
    rw [channel t during, same c rfl t during, spread.samples p member sounds t during]

open Train in
/-- **One channel and two.** The first of two channels is what a single one would be exactly if the tones are alike: there is
no cardinal sine, the sweeps have the same samples, and nothing is heard of the sample that a single channel plays after each
tone. -/
theorem firstChannel_eq_mono_iff (placed : Placed n tones) (fixed : ∀ p ∈ tones, p.isRandom = false)
    (storable : ∀ p ∈ tones, p.Storable rate) (draws : ℕ → α) (turn : α) (missing : Fault) (k : ℕ) :
    (∃ b m, (carry (stereoBuffer rate draws turn n tones) k).1 = .ok b ∧
      (carry (monoBuffer rate draws missing n tones) k).1 = .ok m ∧
        Generator.firstChannel b.toList = m.toList) ↔ Alike rate draws turn n tones k := by
  constructor
  · rintro ⟨b, m, stereo, mono, same⟩
    have doubles : Doubles b m := fun i => by simpa [getElem?_firstChannel] using congrArg (·[i]?) same
    obtain ⟨answered, k', joined⟩ := placed.of_stereoBuffer stereo
    obtain ⟨heard, spread⟩ := placed.of_monoBuffer fixed (fun p member => (storable p member).cuts) mono
    refine ⟨answered, heard, fun vs k₁ samples => ?_, tails_of_doubles placed doubles joined spread⟩
    obtain ⟨ws, samples', played⟩ := joined.played
    obtain rfl : ws = vs := by simpa [samples] using congrArg Prod.fst samples'.symm
    exact sweeps_of_doubles placed doubles spread played
  · rintro ⟨answered, heard, sweeps, tails⟩
    obtain ⟨b, k', built, joined⟩ := answered.stereoBuffer placed.ordered placed.inside placed.plain rate draws turn k
    obtain ⟨m, single, spread⟩ := placed.monoBuffer fixed heard (fun p member => (storable p member).cuts) draws missing k
    obtain ⟨vs, samples, played⟩ := joined.played
    have alike := firstAlike_all placed fixed storable samples (sweeps vs k' samples)
    refine ⟨b, m, by rw [built], by rw [single], ?_⟩
    exact (doubles_of_alike placed joined spread played alike tails).firstChannel_eq

/-- A steady tone of 250 MHz. -/
noncomputable def burst (start length : ℤ) : Tone ℝ where
  channel := 0
  shape := .sine
  frequency := .steady 250
  phase := Real.pi / Scalar.two
  length := length
  sigma := 1
  start := start
  deltaStart := 0
  attenuation := 1
  steepness := 1
  truncation := 1

lemma fixed_burst (start length : ℤ) : (burst start length).isRandom = false := by
  simpa [Tone.isRandom, burst, sub_eq_zero] using Train.quarter_ne

lemma joinedValue_burst (start length : ℤ) (t : ℕ) :
    (burst start length).joinedValue 1250 t = 32767 * Real.sin (2 * Real.pi * t * 250 / 1250 + Real.pi / 2) := by
  simp [Tone.joinedValue, Tone.gain, Tone.envelope, Tone.angle, Tone.ends, Tone.steadyAngle, Tone.total, Tone.phases, burst,
    maxCode]

lemma storable_burst (start length : ℤ) : (burst start length).Storable 1250 := by
  intro t _
  refine ⟨_, truncate_eq _, ?_⟩
  rw [joinedValue_burst]
  have bound : |(32767 : ℝ) * Real.sin (2 * Real.pi * t * 250 / 1250 + Real.pi / 2)| ≤ (32767 : ℤ) := by
    rw [abs_mul]
    have := Real.abs_sin_le_one (2 * Real.pi * t * 250 / 1250 + Real.pi / 2)
    norm_num
    linarith
  have := abs_le.mp (abs_cut_le bound)
  have size : (twoTo 63 : ℤ) = 9223372036854775808 := rfl
  omega

lemma placed_bursts : Placed 32 [burst 0 5, burst 5 27] where
  ordered := by simp [InTurn, burst]
  inside := by
    simp only [forall_mem_cons]
    exact ⟨⟨le_rfl, by decide, by decide⟩, ⟨by decide, by decide, by decide⟩, by simp⟩
  long := by simp [burst]
  plain := by simp [burst, Shape.Plain]

/-- Of two tones that touch, the second one covers what a single channel plays after the first one. -/
theorem firstChannel_eq_mono_touching : Placed 32 [burst 0 5, burst 5 27] ∧
    ∃ b m, (carry (stereoBuffer 1250 0 0 32 [burst 0 5, burst 5 27]) 0).1 = .ok b ∧
      (carry (monoBuffer 1250 0 .noName 32 [burst 0 5, burst 5 27]) 0).1 = .ok m ∧
        Generator.firstChannel b.toList = m.toList := by
  refine ⟨placed_bursts, (firstChannel_eq_mono_iff placed_bursts ?_ ?_ 0 0 .noName 0).mpr ⟨?_, ?_, fun vs k' samples => ?_, ?_⟩⟩
  · simp [fixed_burst]
  · simp [storable_burst]
  · exact ⟨none, rfl, none, rfl, trivial⟩
  · simp [burst]
  · refine ((forall₂_and_left _ vs).mpr ⟨fun p member => member, stereoSamples_each samples⟩).imp fun p v made swept => ?_
    have steady : p.shape = .sine := by
      rcases mem_cons.mp made.1 with rfl | member
      · rfl
      · rw [mem_singleton.mp member]
        rfl
    simp [steady, Shape.isSwept] at swept
  · simp [TailsSilent, burst, Tone.isPlayed]

/-- After a tone with nothing behind it, a single channel plays one sample more than the first of two channels. -/
theorem tail_of_burst : ∃ b m, (carry (stereoBuffer 1250 0 0 32 [burst 0 5]) 0).1 = .ok b ∧
    (carry (monoBuffer 1250 0 .noName 32 [burst 0 5]) 0).1 = .ok m ∧ b[2 * 5]? = some 0 ∧ m[5]? = some 32767 := by
  have placed : Placed 32 [burst 0 5] := by
    refine ⟨by simp [InTurn], ?_, by simp [burst], by simp [burst, Shape.Plain]⟩
    simp only [forall_mem_cons]
    exact ⟨⟨le_rfl, by decide, by decide⟩, by simp⟩
  have answered : AllAnswered none [burst 0 5] := ⟨none, rfl, trivial⟩
  have cuts : ∀ p ∈ [burst 0 5], p.Cuts 1250 := by simpa using (storable_burst 0 5).cuts
  obtain ⟨b, k', built, joined⟩ := answered.stereoBuffer placed.ordered placed.inside placed.plain 1250 0 0 0
  obtain ⟨m, single, spread⟩ := placed.monoBuffer (by simp [fixed_burst]) (by simp [burst]) cuts 0 .noName 0
  refine ⟨b, m, by rw [built], by rw [single], joined.free placed (by decide) ?_, ?_⟩
  · simp [Free, burst]
  · have tail := spread.tails (burst 0 5) (by simp) rfl (by decide) (by simp [burst])
    have top : Real.sin (2 * Real.pi * (5 : ℕ) * 250 / 1250 + Real.pi / 2) = 1 := by
      rw [show 2 * Real.pi * (5 : ℕ) * 250 / 1250 + Real.pi / 2 = Real.pi / 2 + 2 * Real.pi by push_cast; ring,
        Real.sin_add_two_pi, Real.sin_pi_div_two]
    have value : (burst 0 5).joinedValue 1250 5 = ((32767 : ℤ) : ℝ) := by
      rw [joinedValue_burst, top]
      norm_num
    change m[5]? = some (sampled ((burst 0 5).joinedValue 1250 5)) at tail
    rw [tail, sampled, value, truncate_eq, cut_intCast]
    rfl

end EprBench.Waveform
