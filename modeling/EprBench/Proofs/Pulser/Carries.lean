import EprBench.Proofs.Pulser.Coverage
import EprBench.Proofs.Pulser.Programs

/-! Words are sums. A sum of the bits of channels is their union exactly if no channel is counted twice. -/
namespace EprBench.Pulser

open List Outcome

/-! ### Sums and unions of bits -/

lemma two_pow_or_of_unset {n m : Nat} (unset : m.testBit n = false) : 2 ^ n ||| m = 2 ^ n + m := by
  induction n generalizing m with
  | zero =>
    rw [Nat.testBit_zero, decide_eq_false_iff_not] at unset
    have even : m = 2 * (m / 2) := by omega
    rw [even, pow_zero, Nat.or_comm, Nat.add_comm]
    exact (Nat.two_pow_add_eq_or_of_lt (i := 1) (by decide) (m / 2)).symm
  | succ n ih =>
    rw [Nat.testBit_succ, ← Nat.div2_val] at unset
    have double : 2 ^ (n + 1) = Nat.bit false (2 ^ n) := by
      rw [Nat.bit_false, pow_succ, Nat.mul_comm]
    rw [← Nat.bit_bodd_div2 m, double, Nat.lor_bit, Bool.false_or, ih unset, Nat.bit_val, Nat.bit_val, Nat.bit_val]
    simp only [Bool.toNat_false]
    omega

lemma two_pow_or_of_set {n m : Nat} (set : m.testBit n = true) : 2 ^ n ||| m = m := by
  apply Nat.eq_of_testBit_eq
  intro i
  rw [Nat.testBit_or, Nat.testBit_two_pow]
  by_cases h : n = i
  · subst h
    simp [set]
  · simp [h]

def union (bits : List Nat) : Nat := bits.foldr (· ||| ·) 0

lemma testBit_union {bits : List Nat} (powers : ∀ a ∈ bits, ∃ n, a = 2 ^ n) (n : Nat) :
    (union bits).testBit n = true ↔ 2 ^ n ∈ bits := by
  induction bits with
  | nil => simp [union]
  | cons a bits ih =>
    obtain ⟨m, rfl⟩ := powers a mem_cons_self
    have ih := ih fun b hb => powers b (mem_cons_of_mem _ hb)
    have step : union (2 ^ m :: bits) = 2 ^ m ||| union bits := rfl
    rw [step, Nat.testBit_or, Nat.testBit_two_pow, Bool.or_eq_true, ih, mem_cons, decide_eq_true_eq]
    refine or_congr_left ⟨fun h => by rw [h], fun h => (Nat.pow_right_injective (le_refl 2) h).symm⟩

lemma union_eq_sum_iff {bits : List Nat} (powers : ∀ a ∈ bits, ∃ n, a = 2 ^ n) :
    union bits ≤ bits.sum ∧ (union bits = bits.sum ↔ bits.Nodup) := by
  induction bits with
  | nil => simp [union]
  | cons a bits ih =>
    obtain ⟨n, rfl⟩ := powers a mem_cons_self
    have powers' : ∀ a ∈ bits, ∃ n, a = 2 ^ n := fun b hb => powers b (mem_cons_of_mem _ hb)
    obtain ⟨bound, exact_iff⟩ := ih powers'
    have positive : 0 < 2 ^ n := Nat.pow_pos (by decide)
    have step : union (2 ^ n :: bits) = 2 ^ n ||| union bits := rfl
    rw [step, sum_cons, nodup_cons]
    by_cases h : 2 ^ n ∈ bits
    · rw [two_pow_or_of_set ((testBit_union powers' n).mpr h)]
      refine ⟨by omega, fun equal => by omega, fun nodup => absurd h nodup.1⟩
    · have unset : (union bits).testBit n = false := by
        rw [← Bool.not_eq_true, testBit_union powers']
        exact h
      rw [two_pow_or_of_unset unset, Nat.add_left_cancel_iff, exact_iff]
      exact ⟨by omega, fun nodup => ⟨h, nodup⟩, fun nodup => nodup.2⟩

/-! ### Words and channels -/

/-- The union of the bits of all channels that are on at a tick. -/
def unionAt (rows : List Row) (t : Int) : Nat := union ((rows.filter (·.active t)).map fun r => r.channel.toNat)

/-- Rows of one channel are never on together. -/
def Separate (rows : List Row) : Prop := rows.Pairwise fun a b => a.channel = b.channel → a.Disjoint b

variable {rows : List Row}

lemma wordAt_eq_sum_active (wired : Wired rows) (t : Int) :
    wordAt rows t = (((rows.filter (·.active t)).map fun r => r.channel.toNat).sum : Nat) := by
  rw [wordAt_eq_sum]
  induction rows with
  | nil => rfl
  | cons r rows ih =>
    have ih := ih fun s hs => wired s (mem_cons_of_mem _ hs)
    obtain ⟨n, channel⟩ := wired r mem_cons_self
    have whole : ((r.channel.toNat : Nat) : Int) = r.channel := by
      rw [channel]
      rfl
    rw [map_cons, sum_cons, filter_cons]
    split
    · rw [map_cons, sum_cons, Nat.cast_add, whole, ih]
    · rw [ih, zero_add]

lemma wordAt_eq_unionAt_iff (wired : Wired rows) (t : Int) : wordAt rows t = unionAt rows t ↔
      rows.Pairwise fun a b => a.active t = true → b.active t = true → a.channel ≠ b.channel := by
  have powers : ∀ a ∈ (rows.filter (·.active t)).map fun r => r.channel.toNat, ∃ n, a = 2 ^ n := by
    intro a ha
    obtain ⟨r, hr, rfl⟩ := mem_map.mp ha
    obtain ⟨n, channel⟩ := wired r (mem_of_mem_filter hr)
    exact ⟨n, by rw [channel]; rfl⟩
  rw [wordAt_eq_sum_active wired, unionAt, Nat.cast_inj, eq_comm, (union_eq_sum_iff powers).2, List.Nodup,
    pairwise_map, pairwise_filter]
  refine List.Pairwise.iff_of_mem fun {a b} ha hb => ?_
  obtain ⟨m, hm⟩ := wired a ha
  obtain ⟨n, hn⟩ := wired b hb
  rw [hm, hn]
  simp

lemma wordAt_eq_unionAt_iff_separate (wired : Wired rows) (lasting : ∀ r ∈ rows, r.start < r.stop) :
    (∀ t, wordAt rows t = unionAt rows t) ↔ Separate rows := by
  constructor
  · intro unions
    rw [Separate, pairwise_iff_getElem]
    intro i j hi hj before same
    rw [Row.disjoint_iff (lasting _ (getElem_mem hi)) (lasting _ (getElem_mem hj))]
    rintro t ⟨on, on'⟩
    have apart := pairwise_iff_getElem.mp ((wordAt_eq_unionAt_iff wired t).mp (unions t))
    exact apart i j hi hj before on on' same
  · intro separate t
    rw [wordAt_eq_unionAt_iff wired]
    refine separate.imp_of_mem fun {a b} ha hb apart on on' same => ?_
    exact (Row.disjoint_iff (lasting a ha) (lasting b hb)).mp (apart same) t ⟨on, on'⟩

/-! ### Rows that a rehearsal has checked -/

variable {d : Int}

lemma pairwise_of_neighbours (nonneg : 0 ≤ d) (forward : ∀ r ∈ rows, r.start ≤ r.stop)
    (near : ∀ ab ∈ rows.zip rows.tail, ab.1.stop + d ≤ ab.2.start) : rows.Pairwise fun a b => a.stop + d ≤ b.start := by
  induction rows with
  | nil => exact List.Pairwise.nil
  | cons a rows ih =>
    cases rows with
    | nil => exact pairwise_singleton _ _
    | cons b rows =>
      have first : a.stop + d ≤ b.start := near (a, b) mem_cons_self
      have rest := ih (fun r hr => forward r (mem_cons_of_mem _ hr)) fun ab hab =>
        near ab (mem_cons_of_mem _ hab)
      refine pairwise_cons.mpr ⟨fun c hc => ?_, rest⟩
      rcases mem_cons.mp hc with rfl | later
      · exact first
      · have := forward b (by simp)
        have := (pairwise_cons.mp rest).1 c later
        omega

lemma spaced_of_checkDistance (nonneg : 0 ≤ d) (forward : ∀ r ∈ rows, r.start ≤ r.stop)
    (spaced : checkDistance .rehearsal d rows = .ok ()) :
    rows.Pairwise fun a b => a.stop + d ≤ b.start ∨ b.stop + d ≤ a.start := by
  have perm := Row.sortByStart_perm rows
  have clear : ((Row.sortByStart rows).zip (Row.sortByStart rows).tail).any
      (fun ab => decide (ab.2.start - ab.1.stop < d)) = false := by
    simpa [checkDistance] using spaced
  have near : ∀ ab ∈ (Row.sortByStart rows).zip (Row.sortByStart rows).tail, ab.1.stop + d ≤ ab.2.start := by
    intro ab hab
    have : d ≤ ab.2.start - ab.1.stop := by simpa using any_eq_false.mp clear ab hab
    omega
  have sorted := pairwise_of_neighbours nonneg (fun r hr => forward r (perm.mem_iff.mp hr)) near
  exact (perm.pairwise_iff fun h => h.symm).mp (sorted.imp Or.inl)

lemma disjoint_of_checkDistance (nonneg : 0 ≤ d) (forward : ∀ r ∈ rows, r.start ≤ r.stop)
    (spaced : checkDistance .rehearsal d rows = .ok ()) : rows.Pairwise Row.Disjoint :=
  (spaced_of_checkDistance nonneg forward spaced).imp fun {a b} apart =>
    apart.imp (fun (h : a.stop + d ≤ b.start) => by omega) fun (h : b.stop + d ≤ a.start) => by omega

lemma separate_of_disjoint (disjoint : rows.Pairwise Row.Disjoint) : Separate rows :=
  disjoint.imp fun {a b} apart (_ : a.channel = b.channel) => apart

lemma separate_of_checkDriven {c : Config} {awg : Int} (hawg : c.bit "AWG" = .ok awg) (nonneg : 0 ≤ c.minLength)
    {windowed : Bool} (forward : ∀ r ∈ rows, r.start ≤ r.stop)
    (spaced : checkDriven c .rehearsal windowed rows = .ok ()) : Separate rows := by
  cases windowed with
  | false => exact separate_of_disjoint (disjoint_of_checkDistance nonneg forward spaced)
  | true =>
    simp only [checkDriven, Bool.not_true, Bool.false_eq_true, if_false, hawg, ok_bind] at spaced
    obtain ⟨⟨⟩, pulses, spaced⟩ := bind_eq_ok.mp spaced
    obtain ⟨⟨⟩, windows, -⟩ := bind_eq_ok.mp spaced
    have pulses := disjoint_of_checkDistance nonneg (fun r hr => forward r (mem_of_mem_filter hr)) pulses
    have windows := disjoint_of_checkDistance nonneg (fun r hr => forward r (mem_of_mem_filter hr)) windows
    rw [pairwise_filter] at pulses windows
    refine (pulses.and windows).imp fun {a b} both same => ?_
    by_cases window : a.channel = awg
    · exact both.2 (by simpa using window) (by simpa [← same] using window)
    · exact both.1 (by simpa using window) (by simpa [← same] using window)

lemma Separate.perm {xs ys : List Row} (same : xs.Perm ys) : Separate xs ↔ Separate ys :=
  same.pairwise_iff fun apart h => (apart h.symm).symm

lemma separate_uniform {bit : Int} (uniform : ∀ r ∈ rows, r.channel = bit) :
    Separate rows ↔ rows.Pairwise Row.Disjoint := by
  refine List.Pairwise.iff_of_mem fun {a b} ha hb => ?_
  rw [uniform a ha, uniform b hb]
  simp

lemma separate_append {xs ys : List Row} (foreign : ∀ x ∈ xs, ∀ y ∈ ys, x.channel ≠ y.channel) :
    Separate (xs ++ ys) ↔ Separate xs ∧ Separate ys := by
  rw [Separate, pairwise_append, Separate, Separate]
  refine and_congr_right fun _ => and_iff_left ?_
  intro x hx y hy same
  exact absurd same (foreign x hx y hy)

namespace Sequence

variable {s : Sequence} {mw awg : Int} {phases given rows : List Row} {gs others : List (List Row)}

lemma separate_others (sorted : Sorted given) (kept : others.Sublist (Row.groups given))
    (spaced : ∀ g ∈ others, g.Pairwise Row.Disjoint) : Separate others.flatten := by
  rw [Separate, pairwise_flatten]
  refine ⟨fun g hg => separate_of_disjoint (spaced g hg), ?_⟩
  refine ((groups_pairwise sorted).sublist kept).imp fun {g h} order a ha b hb same => ?_
  have := order a ha b hb
  omega

/-- The protection rows of some rows, before those that nearly touch are joined. -/
def shields (s : Sequence) (given : List Row) : Outcome (List Row × List Row) := do
  let gs ← s.groups given
  match gs.find? fun g => decide (s.isDriven g = .ok true) with
  | some g => protections s.config s.mode s.windowed s.phased (.ok gs) g
  | none => return ([], [])

lemma Defended.shields_eq (hmw : s.config.bit "MW" = .ok mw) (hawg : s.config.bit "AWG" = .ok awg)
    (sorted : Sorted given) (defended : Defended s mw awg phases given gs others rows) :
    drivenRows mw awg phases given = [] ∧ s.shields given = .ok ([], []) ∨
      drivenRows mw awg phases given ≠ [] ∧ s.shields given =
        protections s.config s.mode s.windowed s.phased (.ok gs) (drivenRows mw awg phases given) := by
  have idle : ∀ g ∈ others, decide (s.isDriven g = .ok true) = false := by
    intro g hg
    obtain ⟨r, rest, rfl, -⟩ := mem_groups sorted (defended.regrouped.kept.subset hg)
    obtain ⟨notMw, notAwg⟩ := defended.regrouped.channel _ hg r mem_cons_self
    rw [isDriven_cons hmw hawg, beq_false_of_ne notMw, beq_false_of_ne notAwg]
    decide
  obtain ⟨front, back, rfl, split⟩ := defended.regrouped.split
  have before : front.find? (fun g => decide (s.isDriven g = .ok true)) = none :=
    find?_eq_none.mpr fun g hg => by simp [idle g (mem_append_left _ hg)]
  have after : back.find? (fun g => decide (s.isDriven g = .ok true)) = none :=
    find?_eq_none.mpr fun g hg => by simp [idle g (mem_append_right _ hg)]
  rw [Sequence.shields, defended.grouped, ok_bind]
  rcases eq_or_ne (drivenRows mw awg phases given) [] with none | some
  · rw [if_pos none, append_nil] at split
    refine .inl ⟨none, ?_⟩
    rw [split, find?_append, before, after]
    rfl
  · rw [if_neg some] at split
    refine .inr ⟨some, ?_⟩
    obtain ⟨r, rest, h⟩ := exists_cons_of_ne_nil some
    have driven : decide (s.isDriven (drivenRows mw awg phases given) = .ok true) = true := by
      have channel := mem_drivenRows (h ▸ mem_cons_self : r ∈ drivenRows mw awg phases given)
      rw [h, isDriven_cons hmw hawg, decide_eq_true_eq, Except.ok.injEq, Bool.or_eq_true, beq_iff_eq, beq_iff_eq]
      exact channel
    have found : gs.find? (fun g => decide (s.isDriven g = .ok true)) = Option.some (drivenRows mw awg phases given) := by
      rw [split, append_assoc, find?_append, before, singleton_append, find?_cons, driven]
      rfl
    rw [found]

end Sequence

/-- The pulse that a row was made for: a window is longer than its pulse. -/
def Row.declared (c : Config) (r : Row) : Row := if c.bit "AWG" = .ok r.channel then unwindowed c r else r

lemma length_of_declared {r : Row} (long : 5 ≤ (r.declared .factory).length) :
    5 ≤ r.length ∧ (r.channel = 128 → 25 ≤ r.length) := by
  have window : (unwindowed .factory r).length = r.length - 20 := by
    show r.stop - Config.factory.windowTailTicks - (r.start + Config.factory.windowLeadTicks) = r.stop - r.start - 20
    have tail : Config.factory.windowTailTicks = -65 := by decide
    have lead : Config.factory.windowLeadTicks = 85 := by decide
    omega
  rw [Row.declared, Config.factory_awg] at long
  split at long
  · omega
  · rename_i other
    exact ⟨long, fun h => absurd (by rw [h]) other⟩

lemma window_of_drivenRows {mw awg : Int} (distinct : mw ≠ awg) {phases given : List Row} (long : Long given) {r : Row}
    (member : r ∈ drivenRows mw awg phases given) (window : r.channel = awg) :
    ∃ q ∈ given, q.channel = awg ∧ q.length ≤ r.length := by
  rcases mem_append.mp member with pulse | cleared
  · exact absurd ((mem_onChannel.mp pulse).2.symm.trans window) distinct
  · split at cleared
    · exact ⟨r, (mem_onChannel.mp cleared).1, window, le_refl _⟩
    · obtain ⟨q, hq, rfl⟩ := mem_map.mp cleared
      have pulses : Long (onChannel mw given) := fun p hp => long p (mem_onChannel.mp hp).1
      exact ⟨q, (mem_onChannel.mp hq).1, (mem_onChannel.mp hq).2, (Row.within_clearOf pulses phases q).length_le⟩

namespace Sequence

variable {s : Sequence} {phases given rows : List Row} {gs others : List (List Row)}

lemma long_shields (factory : s.config = .factory) (long : ∀ r ∈ given, 5 ≤ (r.declared .factory).length)
    {own : Outcome (List (List Row))} {amp lna : List Row}
    (made : protections s.config s.mode s.windowed s.phased own (drivenRows 8 128 phases given) = .ok (amp, lna)) :
    (∀ a ∈ amp, 25 ≤ a.length) ∧ ∀ a ∈ lna, 25 ≤ a.length := by
  have given_long : Long given := fun r hr => (length_of_declared (long r hr)).1
  have driven_long : Long (drivenRows 8 128 phases given) := long_drivenRows given_long
  have window : ∀ r ∈ drivenRows 8 128 phases given, r.channel = 128 → 25 ≤ r.length := by
    intro r hr channel
    obtain ⟨q, hq, hc, length⟩ := window_of_drivenRows (by decide) given_long hr channel
    exact ((length_of_declared (long q hq)).2 hc).trans length
  rw [factory] at made
  have spec := protections_shielded Config.factory_mw Config.factory_awg (by decide) driven_long made
  have switch : Config.factory.switchDelay = 85 := rfl
  have ampDelay : Config.factory.ampDelay = -65 := rfl
  have protectDelay : Config.factory.protectDelay = -15 := rfl
  have windowDelay : Config.factory.protectWindowDelay = -25 := rfl
  have tail : Config.factory.windowTailTicks = -65 := by decide
  constructor
  · intro a ha
    obtain ⟨r, hr, ⟨-, start, stop⟩ | ⟨channel, start, stop⟩⟩ := spec.amp_source a ha
    · have := driven_long r hr
      simp only [Row.length] at this ⊢
      omega
    · have := window r hr channel
      simp only [Row.length] at this ⊢
      omega
  · intro a ha
    obtain ⟨r, hr, ⟨-, start, stop⟩ | ⟨channel, start, stop⟩⟩ := spec.lna_source a ha
    · have := driven_long r hr
      simp only [Row.length] at this ⊢
      omega
    · have := window r hr channel
      simp only [Row.length] at this ⊢
      omega

lemma Defended.separate_own (factory : s.config = .factory) (rehearsal : s.mode = .rehearsal) (sorted : Sorted given)
    (long : Long given) (defended : Defended s 8 128 phases given gs others rows) : Separate gs.flatten := by
  have forward : ∀ r ∈ given, r.start ≤ r.stop := by
    intro r hr
    have := long r hr
    simp only [Row.length] at this
    omega
  have apart : ∀ g ∈ others, g.Pairwise Row.Disjoint := by
    intro g hg
    obtain ⟨d, hd, spaced⟩ := defended.spaced g hg
    rw [rehearsal] at spaced
    have nonneg : 0 ≤ d := by
      rcases hd with rfl | rfl
      · decide
      · rw [factory]
        decide
    exact disjoint_of_checkDistance nonneg
      (fun r hr => forward r (mem_of_mem_group (defended.regrouped.kept.subset hg) hr)) spaced
  have driven : Separate (drivenRows 8 128 phases given) := by
    rcases defended.shields with ⟨none, -⟩ | ⟨-, amp, lna, on, closed, shielded, -⟩
    · rw [none]
      exact List.Pairwise.nil
    · have spaced := shielded.spaced
      rw [rehearsal, factory] at spaced
      refine separate_of_checkDriven Config.factory_awg (by decide) (fun r hr => ?_) spaced
      have := long_drivenRows long r hr
      simp only [Row.length] at this
      omega
  have both : Separate (others.flatten ++ drivenRows 8 128 phases given) := by
    rw [separate_append]
    · exact ⟨separate_others sorted defended.regrouped.kept apart, driven⟩
    · intro x hx y hy same
      obtain ⟨g, hg, hx⟩ := List.mem_flatten.mp hx
      have other := defended.regrouped.channel g hg x hx
      rw [same] at other
      exact not_or.mpr other (mem_drivenRows hy)
  exact (Separate.perm defended.regrouped.flatten_perm).mpr both

lemma unmixed_nil : Unmixed [] := ⟨List.Pairwise.nil, fun _ member => absurd member not_mem_nil⟩

lemma joined_shields (factory : s.config = .factory) {name : String} {n : Nat} (channel : s.config.channel name = .ok n)
    {shields out : List Row} (bits : ∀ a ∈ shields, s.config.bit name = .ok a.channel) (long : ∀ a ∈ shields, 25 ≤ a.length)
    (made : mended s.config s.mode name shields = .ok out) :
    (∀ r ∈ out, r.start < r.stop) ∧ (∀ r ∈ out, r.channel = twoTo n) ∧ (Separate out ↔ Unmixed shields) := by
  have bit : s.config.bit name = .ok (twoTo n) := by
    rw [Config.bit, channel]
    rfl
  have lasting : ∀ r ∈ shields, r.start < r.stop := by
    intro r hr
    have := long r hr
    simp only [Row.length] at this
    omega
  have uniform : ∀ r ∈ out, r.channel = twoTo n := fun r hr =>
    Except.ok.inj ((mended_bit bits made r hr).symm.trans bit)
  have gap : ∀ r ∈ shields, s.config.minLength + 1 < r.length := by
    intro r hr
    have : s.config.minLength = 10 := by rw [factory]; rfl
    have := long r hr
    omega
  exact ⟨mended_lasts channel lasting made, uniform,
    (separate_uniform uniform).trans (mended_disjoint_iff channel lasting gap made)⟩

lemma Defended.separate_iff (factory : s.config = .factory) (rehearsal : s.mode = .rehearsal) (sorted : Sorted given)
    (foreign : ∀ r ∈ given, r.channel ≠ 2 ∧ r.channel ≠ 4) (long : ∀ r ∈ given, 5 ≤ (r.declared .factory).length)
    (defended : Defended s 8 128 phases given gs others rows) :
    ∃ amp lna, s.shields given = .ok (amp, lna) ∧ (∀ r ∈ rows, r.start < r.stop) ∧
      (Separate rows ↔ Unmixed amp ∧ Unmixed lna) := by
  have given_long : Long given := fun r hr => (length_of_declared (long r hr)).1
  have hmw : s.config.bit "MW" = .ok 8 := by rw [factory]; rfl
  have hawg : s.config.bit "AWG" = .ok 128 := by rw [factory]; rfl
  have own := defended.separate_own factory rehearsal sorted given_long
  have lasting : ∀ r ∈ gs.flatten, r.start < r.stop := by
    intro r hr
    have : 5 ≤ r.length := by
      rcases defended.regrouped.mem_flatten.mp hr with other | driven
      · obtain ⟨g, hg, hr⟩ := List.mem_flatten.mp other
        exact given_long r (mem_of_mem_group (defended.regrouped.kept.subset hg) hr)
      · exact long_drivenRows given_long r driven
    simp only [Row.length] at this
    omega
  rcases defended.shields with ⟨none, rfl⟩ | ⟨some, amp, lna, on, closed, shielded, rfl⟩
  · rcases defended.shields_eq hmw hawg sorted with ⟨-, shields⟩ | ⟨some, -⟩
    · exact ⟨[], [], shields, lasting, fun _ => ⟨unmixed_nil, unmixed_nil⟩, fun _ => own⟩
    · exact absurd none some
  · have amplifier : s.config.channel "AMP_ON" = .ok 1 := by rw [factory]; rfl
    have receiver : s.config.channel "LNA_PROTECT" = .ok 2 := by rw [factory]; rfl
    have shields : s.shields given = .ok (amp, lna) := by
      rcases defended.shields_eq hmw hawg sorted with ⟨none, -⟩ | ⟨-, shields⟩
      · exact absurd none some
      · rw [shields, shielded.shields]
    obtain ⟨ampLong, lnaLong⟩ := long_shields factory long shielded.shields
    obtain ⟨ampBits, lnaBits⟩ := protections_channel shielded.shields
    obtain ⟨onLasts, onBit, onSpec⟩ := joined_shields factory amplifier ampBits ampLong shielded.amplifier
    obtain ⟨closedLasts, closedBit, closedSpec⟩ := joined_shields factory receiver lnaBits lnaLong shielded.receiver
    refine ⟨amp, lna, shields, ?_, ?_⟩
    · intro r hr
      rcases mem_append.mp hr with hr | hr
      · exact lasting r hr
      · exact (mem_append.mp hr).elim (onLasts r) (closedLasts r)
    · rw [separate_append, separate_append, and_iff_right own, onSpec, closedSpec]
      · intro x hx y hy
        rw [onBit x hx, closedBit y hy]
        decide
      · intro x hx y hy
        obtain ⟨q, hq, channel⟩ := grouped_channel defended.grouped x hx
        rw [← channel]
        rcases mem_append.mp hy with hy | hy
        · rw [onBit y hy]
          exact (foreign q hq).1
        · rw [closedBit y hy]
          exact (foreign q hq).2

end Sequence

namespace Device

variable {p : Device} {given rows : List Row}

lemma checkChannel_ok {v : Value} (checked : checkChannel .factory v = .ok ()) {n : Nat}
    (found : v.find Config.factory.channels = .ok (some n)) : n ≠ 1 ∧ n ≠ 2 := by
  obtain ⟨name, rfl, listed⟩ := find_eq_some found
  rw [checkChannel, found, ok_bind] at checked
  have allowed : (!(name == "AMP_ON" || name == "LNA_PROTECT")) = true := ensure_eq_ok.mp checked
  have named := Config.mem_of_lookup listed
  constructor
  · rintro rfl
    obtain rfl : name = "AMP_ON" := Config.factory_name named (by decide +kernel)
    simp at allowed
  · rintro rfl
    obtain rfl : name = "LNA_PROTECT" := Config.factory_name named (by decide +kernel)
    simp at allowed

lemma foreign_of_checked (factory : p.config = .factory)
    (channels : ∀ q ∈ p.pulses, checkChannel p.config q.channel = .ok ()) (converted : p.converted = .ok given) :
    ∀ r ∈ given, r.channel ≠ 2 ∧ r.channel ≠ 4 := by
  have placed := placed_of_converted converted
  rw [factory] at placed channels
  intro r hr
  obtain ⟨n, ⟨notAmp, notLna⟩, channel⟩ := placed.channel (P := fun n => n ≠ 1 ∧ n ≠ 2) (by
    intro q hq name n named found
    obtain ⟨pulse, member, rfl⟩ := mem_map.mp hq
    obtain rfl := Except.ok.inj named
    exact checkChannel_ok (channels pulse member) found) r hr
  rw [channel]
  exact ⟨fun h => notAmp (twoTo_inj (n := 1) h), fun h => notLna (twoTo_inj (n := 2) h)⟩

lemma unionAt_idle {t : Int} (off : ∀ r ∈ rows, r.active t = false) : unionAt rows t = 0 := by
  have none : rows.filter (·.active t) = [] := filter_eq_nil_iff.mpr fun r hr => by simp [off r hr]
  rw [unionAt, none]
  rfl

lemma output_iff {s : Sequence} (positive : 0 < s.config.timebase) (wired : Wired rows)
    (lasting : ∀ r ∈ rows, r.start < r.stop) {period : Int} {is : List Instruction}
    (done : s.program period rows = .ok (some is)) (durations : ∀ i ∈ is, 0 < i.duration) :
    (∀ k : Nat, s.config.timebase * k < period →
      outputAt s.config.timebase is k = some (unionAt rows (firstStart rows - leadIn + k) : Int)) ↔
    ∀ t, wordAt rows t = unionAt rows t := by
  obtain ⟨short, output⟩ := Sequence.program_output positive wired.positive lasting done durations
  constructor
  · intro unions t
    by_cases inside : firstStart rows ≤ t ∧ t < lastStop rows
    · have lead := leadIn_before rows
      obtain ⟨k, hk⟩ := Int.eq_ofNat_of_zero_le (by omega : 0 ≤ t - (firstStart rows - leadIn))
      have fits : s.config.timebase * k < period :=
        lt_trans (mul_lt_mul_of_pos_left (by omega) positive) short
      have here : firstStart rows - leadIn + k = t := by omega
      have word := (output k fits).symm.trans (unions k fits)
      rw [here] at word
      exact Option.some.inj word
    · have off : ∀ r ∈ rows, r.active t = false := by
        intro r hr
        have := firstStart_le hr
        have := le_lastStop hr
        rw [← Bool.not_eq_true, Row.active_iff]
        omega
      rw [wordAt_idle off, unionAt_idle off]
      rfl
  · intro unions k inside
    rw [output k inside, unions]

/-- The protection rows of the pulses, before those that nearly touch are joined. -/
def shields (p : Device) : Outcome (List Row × List Row) := do
  Sequence.shields { p.sequence with windowed := p.windowedAfter p.properties } (← p.converted)

/-- In a rehearsal with the settings of the factory, let all pulses be on channels that a script may use, last at least
five ticks and be accepted by an update. Then the program puts out the union of the bits of all channels that are on, in
every tick of the period, exactly if no protection row that is kept apart from its neighbours overlaps another one; and
this is also when no two rows of one channel overlap. -/
theorem output_is_union_iff (rehearsal : p.mode = .rehearsal) (factory : p.config = .factory)
    (channels : ∀ q ∈ p.pulses, checkChannel p.config q.channel = .ok ()) (converted : p.converted = .ok given)
    (long : ∀ r ∈ given, 5 ≤ (r.declared p.config).length) (waits : p.waiting = true) {b : Bench}
    (accepted : answer update p b = .ok ()) :
    ∃ time rows is amp lna, period p.rate = .ok (some time) ∧ answer (prepare p.properties) p b = .ok rows ∧
      answer (programFor p.properties time) p b = .ok is ∧ p.shields = .ok (amp, lna) ∧
      ((∀ k : Nat, p.config.timebase * k < time →
          outputAt p.config.timebase is k = some (unionAt rows (firstStart rows - leadIn + k) : Int)) ↔
        Unmixed amp ∧ Unmixed lna) ∧ (Separate rows ↔ Unmixed amp ∧ Unmixed lna) := by
  rcases h : perform update p b with ⟨⟨result, p'⟩, b'⟩
  obtain rfl : result = .ok () := by
    rw [answer, h] at accepted
    exact accepted
  obtain ⟨time, rate, ⟨idle, -⟩ | ⟨-, is, w, program, durations, -⟩⟩ := update_rehearsed rehearsal h
  · rw [waits] at idle
    simp at idle
  obtain ⟨rows, prepared, program'⟩ := bind_eq_ok.mp program
  have positive : 0 < p.config.timebase := by
    rw [factory]
    decide
  have lasting_durations : ∀ i ∈ is, 0 < i.duration := fun i hi => by
    have := durations i hi
    omega
  obtain ⟨phases, gs, others, defended⟩ := defended factory converted prepared
  rw [factory] at long
  obtain ⟨amp, lna, shields, lasting, separate_iff⟩ := defended.separate_iff factory rehearsal
    (placed_of_converted converted).sorted (foreign_of_checked factory channels converted) long
  have wired := prepare_wired prepared
  refine ⟨time, rows, is, amp, lna, rate, ?_, ?_, ?_, ?_, separate_iff⟩
  · obtain ⟨w, frame⟩ := prepare_frame p.properties p
    rw [answer, frame, prepared]
  · obtain ⟨w, computed⟩ := perform_programFor p.properties time p
    rw [answer, computed, program]
  · rw [Device.shields, converted]
    exact shields
  · exact ((output_iff (s := p.sequence) positive wired lasting program' lasting_durations).trans
      (wordAt_eq_unionAt_iff_separate wired lasting)).trans separate_iff

theorem output_of_close_pulses :
    let given : List Row := [⟨1, 825, 875⟩, ⟨8, 175, 185⟩, ⟨8, 235, 255⟩, ⟨128, 490, 560⟩]
    (∀ q ∈ closePulses.pulses, checkChannel closePulses.config q.channel = .ok ()) ∧
      closePulses.converted = .ok given ∧ (∀ r ∈ given, 5 ≤ (r.declared closePulses.config).length) ∧
      closePulses.waiting = true ∧ answer update closePulses {} = .ok () ∧
      ∃ time rows is, answer (programFor closePulses.properties time) closePulses {} = .ok is ∧
        ∀ k : Nat, closePulses.config.timebase * k < time →
          outputAt closePulses.config.timebase is k = some (unionAt rows (firstStart rows - leadIn + k) : Int) := by
  intro given
  have channels : ∀ q ∈ closePulses.pulses, checkChannel closePulses.config q.channel = .ok () := by decide +kernel
  have converted : closePulses.converted = .ok given := by decide +kernel
  have long : ∀ r ∈ given, 5 ≤ (r.declared closePulses.config).length := by decide +kernel
  have accepted : answer update closePulses {} = .ok () := by decide +kernel
  obtain ⟨time, rows, is, amp, lna, -, -, program, shields, unions, -⟩ :=
    output_is_union_iff rfl rfl channels converted long rfl accepted
  have made : closePulses.shields = .ok ([⟨2, 90, 120⟩, ⟨2, 150, 195⟩, ⟨2, 490, 560⟩],
      [⟨4, 90, 175⟩, ⟨4, 150, 255⟩, ⟨4, 490, 600⟩]) := by decide +kernel
  obtain ⟨rfl, rfl⟩ := Prod.mk.inj (Except.ok.inj (shields.symm.trans made))
  refine ⟨channels, converted, long, rfl, accepted, time, rows, is, program, unions.mpr ⟨?_, ?_⟩⟩
  · unfold Unmixed Row.Disjoint
    decide +kernel
  · unfold Unmixed Row.Disjoint
    decide +kernel

/-- The last of three microwave pulses comes between the others. -/
def crossing : Device :=
  holding [("P0", "MW", "100 ns", "20 ns"), ("P1", "MW", "1000 ns", "20 ns"), ("P2", "MW", "200 ns", "20 ns")]

/-- The receiver pulses of the first and the last pulse overlap and are not joined: their bits add up to the bit of the
microwave pulses, which is put out while no microwave pulse is on. -/
theorem receiver_carries_into_microwave : answer update crossing {} = .ok () ∧
      ∃ rows is, answer (prepare crossing.properties) crossing {} = .ok rows ∧
        answer (programFor crossing.properties 500000000) crossing {} = .ok is ∧
        outputAt crossing.config.timebase is 80 = some 10 ∧ unionAt rows (firstStart rows - leadIn + 80) = 6 := by
  refine ⟨by decide +kernel, [⟨8, 175, 185⟩, ⟨8, 625, 635⟩, ⟨8, 225, 235⟩, ⟨2, 90, 120⟩, ⟨2, 140, 175⟩, ⟨2, 540, 570⟩,
    ⟨4, 90, 175⟩, ⟨4, 140, 225⟩, ⟨4, 540, 625⟩], [⟨0, 0, 50⟩, ⟨6, 50, 60⟩, ⟨4, 110, 40⟩, ⟨10, 150, 70⟩, ⟨12, 220, 20⟩,
    ⟨4, 240, 80⟩, ⟨8, 320, 20⟩, ⟨0, 340, 610⟩, ⟨6, 950, 60⟩, ⟨4, 1010, 110⟩, ⟨8, 1120, 20⟩, ⟨0, 1140, 499998860⟩],
    by decide +kernel, by decide +kernel, by decide +kernel, by decide +kernel⟩

end Device

end EprBench.Pulser
