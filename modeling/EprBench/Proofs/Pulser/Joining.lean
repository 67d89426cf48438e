import EprBench.Proofs.Pulser.Gaps
import EprBench.Proofs.Pulser.Order
import EprBench.Proofs.Pulser.Words

/-! Protection rows that nearly touch are joined. -/
namespace EprBench.Pulser

open List Outcome

variable {bits : List Int} {c : Config} {mode : Mode} {n : Nat} {name : String}

/-! ### Stretches of words as rows -/

lemma place_duration_pos {t : Int} {rs : List Run} (lasting : ∀ r ∈ rs, 0 < r.ticks) :
    ∀ i ∈ place 1 t rs, 0 < i.duration := by
  induction rs generalizing t with
  | nil => simp [place]
  | cons r rs ih =>
    intro i hi
    rcases mem_cons.mp hi with rfl | hi
    · have := lasting r mem_cons_self
      simp only [one_mul]
      omega
    · exact ih (fun r hr => lasting r (mem_cons_of_mem _ hr)) i hi

lemma getElem?_withoutIdleEnd {ws : List Int} {k : Nat} {w : Int} (busy : w ≠ 0) :
    (withoutIdleEnd ws)[k]? = some w ↔ ws[k]? = some w := by
  obtain ⟨n, h⟩ := withoutIdleEnd_append ws
  by_cases inside : k < (withoutIdleEnd ws).length
  · conv_rhs => rw [h, getElem?_append_left inside]
  · have idle : ws[k]? ≠ some w := by
      intro hw
      rw [h, getElem?_append_right (by omega)] at hw
      exact busy (eq_of_mem_replicate (List.mem_of_getElem? hw))
    simp only [idle, iff_false]
    rw [getElem?_eq_none (by omega)]
    simp

variable {rows out : List Row}

lemma activeRows_spec {ws : List Int} (made : activeRows ws = .ok rows) :
    (∀ r ∈ rows, r.channel ≠ 0 ∧ r.start < r.stop ∧ 0 ≤ r.start ∧
      ∀ t : Nat, r.active t = true → ws[t]? = some r.channel) ∧
    (∀ (k : Nat) (w : Int), ws[k]? = some w → w ≠ 0 → ∃ r ∈ rows, r.channel = w ∧ r.active k = true) ∧
    rows.Pairwise fun a b => a.stop ≤ b.start := by
  obtain rfl := activeRows_eq_ok made
  have order := place_pairwise (zero_le_one : (0 : Int) ≤ 1) 0 (runs (withoutIdleEnd ws))
  refine ⟨?_, ?_, ?_⟩
  · intro r hr
    obtain ⟨i, hi, rfl⟩ := mem_map.mp hr
    obtain ⟨member, busy⟩ := mem_filter.mp hi
    have lasts := place_duration_pos (runs_ticks_pos _) i member
    have busy : i.word ≠ 0 := by simpa using busy
    refine ⟨busy, by simpa using lasts, by simpa using order.1 i member, ?_⟩
    intro t on
    obtain ⟨lower, upper⟩ := Row.active_iff.mp on
    have word := (place_word member lower upper).2
    rw [expand_runs, sub_zero, Int.toNat_natCast] at word
    exact (getElem?_withoutIdleEnd busy).mp word
  · intro k w hw busy
    have kept := (getElem?_withoutIdleEnd busy).mpr hw
    rw [← expand_runs (withoutIdleEnd ws)] at kept
    obtain ⟨i, member, rfl, lower, upper⟩ := place_covers 0 _ k w kept
    refine ⟨⟨i.word, i.start, i.start + i.duration⟩, ?_, rfl, ?_⟩
    · exact mem_map.mpr ⟨i, mem_filter.mpr ⟨member, by simpa using busy⟩, rfl⟩
    · rw [zero_add] at lower upper
      exact Row.active_iff.mpr ⟨lower, upper⟩
  · rw [pairwise_map]
    exact order.2.sublist filter_sublist

/-! ### Bits of rows -/

lemma bitsOf_spec (made : bitsOf rows = .ok bits) :
    Binary bits ∧ (∀ r ∈ rows, 0 ≤ r.start) ∧ ∀ t : Nat, bits.getD t 0 = 1 ↔ anyAt rows t = true := by
  rw [bitsOf] at made
  split at made
  · exact absurd made throw_bind_ne_ok
  · rename_i fine
    rw [pure_eq_ok] at made
    subst made
    refine ⟨?_, ?_, ?_⟩
    · intro b hb
      obtain ⟨t, _, rfl⟩ := mem_map.mp hb
      split
      · exact .inr rfl
      · exact .inl rfl
    · intro r hr
      simp only [Bool.or_eq_true, any_eq_true, not_or, not_exists, not_and] at fine
      have := fine.2 r hr
      simp only [decide_eq_true_eq] at this
      omega
    · intro t
      by_cases inside : t < (lastStop rows).toNat
      · rw [getD_eq_getElem _ _ (by simpa using inside)]
        simp
      · rw [getD_eq_default _ _ (by simpa using inside)]
        constructor
        · intro h
          exact absurd h (by decide)
        · intro h
          obtain ⟨r, hr, on⟩ := any_eq_true.mp h
          have := (Row.active_iff.mp on).2
          have := le_lastStop hr
          omega

lemma closeGaps_spec {channel : Value} {out : List Int} (binary : Binary bits)
    (made : closeGaps c mode channel bits = .ok (some out)) :
    Binary out ∧ ∀ t, (bits.getD t 0 = 1 → out.getD t 0 = 1) ∧
      (out.getD t 0 = 1 → bits.getD t 0 = 1 ∨ InShortGap (c.minLength + 1) bits t) := by
  obtain ⟨protecting, -, made⟩ := bind_eq_ok.mp made
  split at made
  · split at made
    · obtain ⟨joinedBits, done, made⟩ := bind_eq_ok.mp made
      rw [pure_eq_ok, Option.some.injEq] at made
      subst made
      have one : 1 ∈ bits := by
        rw [joined] at done
        split at done
        · exact absurd done (by simp)
        · rename_i some
          simpa using some
      obtain ⟨out, done', -, binaryOut, ones⟩ := joined_spec c binary one
      rw [done, Except.ok.injEq] at done'
      subst done'
      exact ⟨binaryOut, fun t => ⟨fun h => (ones t).mpr (Or.inl h), (ones t).mp⟩⟩
    · rw [pure_eq_ok, Option.some.injEq] at made
      subst made
      exact ⟨binary, fun t => ⟨id, Or.inl⟩⟩
  · obtain ⟨_, -, made⟩ := bind_eq_ok.mp made
    rw [pure_eq_ok] at made
    exact absurd made (by simp)

/-! ### Rows that nearly touch -/

variable {r : Row}

lemma mem_marked {marks : List Bool} (length : marks.length = rows.length) :
    r ∈ rows ↔ r ∈ ((rows.zip marks).filter fun m => !m.2).map Prod.fst ∨
      r ∈ ((rows.zip marks).filter fun m => m.2).map Prod.fst := by
  simp only [mem_map, mem_filter]
  constructor
  · intro hr
    obtain ⟨i, hi, rfl⟩ := getElem_of_mem hr
    have inside : i < (rows.zip marks).length := by
      rw [length_zip, length]
      omega
    have paired := getElem_mem inside
    rw [getElem_zip] at paired
    cases mark : marks[i] with
    | false => exact .inl ⟨_, ⟨paired, by rw [mark]; rfl⟩, rfl⟩
    | true => exact .inr ⟨_, ⟨paired, mark⟩, rfl⟩
  · rintro (⟨m, ⟨hm, _⟩, rfl⟩ | ⟨m, ⟨hm, _⟩, rfl⟩)
    · exact (of_mem_zip hm).1
    · exact (of_mem_zip hm).1

lemma mem_separate : r ∈ rows ↔ r ∈ (separate rows).1 ∨ r ∈ (separate rows).2 := by
  simp only [separate, Row.mem_distinct]
  exact mem_marked (by simp)

/-- What rows of one channel are joined to: stretches, one after the other, that cover the rows and beside them only
gaps of at most `limit` ticks. -/
structure Stretches (limit bit : Int) (rows stretches : List Row) : Prop where
  channel : ∀ s ∈ stretches, s.channel = bit
  lasts : ∀ s ∈ stretches, s.start < s.stop
  order : stretches.Pairwise fun a b => a.stop ≤ b.start
  covers : ∀ r ∈ rows, ∀ t, r.active t = true → ∃ s ∈ stretches, s.active t = true
  within : ∀ s ∈ stretches, ∀ t, s.active t = true → anyAt rows t = true ∨
    ∃ u v, u < t ∧ t < v ∧ anyAt rows u = true ∧ anyAt rows v = true ∧ v - u - 1 ≤ limit

lemma twoTo_pos (n : Nat) : (0 : Int) < twoTo n := by
  have : 0 < twoTo n := Nat.pow_pos (by decide)
  omega

lemma getElem?_scaled (binary : Binary bits) {bit : Int} (k : Nat) {w : Int} (busy : w ≠ 0) :
    (bits.map (bit * ·))[k]? = some w ↔ bits.getD k 0 = 1 ∧ w = bit := by
  rw [getElem?_map, Option.map_eq_some_iff, getD_eq_getElem?_getD]
  constructor
  · rintro ⟨b, hb, rfl⟩
    rcases binary b (List.mem_of_getElem? hb) with rfl | rfl
    · exact absurd (mul_zero bit) busy
    · exact ⟨by rw [hb]; rfl, mul_one bit⟩
  · rintro ⟨one, rfl⟩
    cases hb : bits[k]? with
    | none =>
      rw [hb] at one
      exact absurd one (by decide)
    | some b =>
      rw [hb] at one
      exact ⟨b, rfl, by rw [show b = 1 from one, mul_one]⟩

lemma stretches_of_joined {channel : Value} {stretches : List Row}
    (joined : protectionBits c mode channel rows = .ok bits)
    (made : activeRows (bits.map ((twoTo n : Int) * ·)) = .ok stretches) :
    Stretches (c.minLength + 1) (twoTo n) rows stretches := by
  obtain ⟨given, hgiven, joined⟩ := bind_eq_ok.mp joined
  obtain ⟨answer, closed, joined⟩ := bind_eq_ok.mp joined
  cases answer with
  | none => exact absurd joined (by simp)
  | some out =>
    rw [pure_eq_ok] at joined
    subst joined
    obtain ⟨binaryGiven, nonneg, on⟩ := bitsOf_spec hgiven
    obtain ⟨binary, kept⟩ := closeGaps_spec binaryGiven closed
    obtain ⟨holds, held, order⟩ := activeRows_spec made
    have bit := twoTo_pos n
    have one : ∀ s ∈ stretches, ∀ k : Nat, s.active k = true → out.getD k 0 = 1 ∧ s.channel = twoTo n := by
      intro s hs k hk
      obtain ⟨busy, -, -, words⟩ := holds s hs
      exact (getElem?_scaled binary k busy).mp (words k hk)
    have tick : ∀ s ∈ stretches, ∀ t, s.active t = true → ∃ k : Nat, t = k := by
      intro s hs t ht
      have := (holds s hs).2.2.1
      have := (Row.active_iff.mp ht).1
      exact ⟨t.toNat, by omega⟩
    refine ⟨?_, fun s hs => (holds s hs).2.1, order, ?_, ?_⟩
    · intro s hs
      have lasts := (holds s hs).2.1
      have first : s.active s.start = true := Row.active_iff.mpr ⟨le_refl _, lasts⟩
      obtain ⟨k, hk⟩ := tick s hs _ first
      exact (one s hs k (hk ▸ first)).2
    · intro r hr t ht
      have := nonneg r hr
      have := (Row.active_iff.mp ht).1
      obtain ⟨k, rfl⟩ : ∃ k : Nat, t = k := ⟨t.toNat, by omega⟩
      have set : given.getD k 0 = 1 := (on k).mpr (any_eq_true.mpr ⟨r, hr, ht⟩)
      have word := (getElem?_scaled binary k (ne_of_gt bit)).mpr ⟨(kept k).1 set, rfl⟩
      obtain ⟨s, hs, -, active⟩ := held k _ word (ne_of_gt bit)
      exact ⟨s, hs, active⟩
    · intro s hs t ht
      obtain ⟨k, rfl⟩ := tick s hs t ht
      rcases (kept k).2 (one s hs k ht).1 with set | ⟨u, v, hu, hv, setU, setV, -, few⟩
      · exact .inl ((on k).mp set)
      · exact .inr ⟨u, v, by omega, by omega, (on u).mp setU, (on v).mp setV, few⟩

lemma mended_spec (channel : c.channel name = .ok n) (made : mended c mode name rows = .ok out) :
    ∃ stretches, out = (separate rows).1 ++ stretches ∧
      Stretches (c.minLength + 1) (twoTo n) (separate rows).2 stretches := by
  rw [mended] at made
  simp only at made
  split at made
  · rename_i none
    rw [pure_eq_ok] at made
    subst made
    refine ⟨[], (append_nil _).symm, by simp, by simp, List.Pairwise.nil, ?_, by simp⟩
    rw [List.isEmpty_iff.mp none]
    simp
  · rw [channel, ok_bind] at made
    obtain ⟨bits, joined, made⟩ := bind_eq_ok.mp made
    obtain ⟨stretches, active, made⟩ := bind_eq_ok.mp made
    rw [pure_eq_ok] at made
    exact ⟨stretches, made.symm, stretches_of_joined joined active⟩

/-! ### What is kept when rows are joined -/

/-- Two rows that are never on together. -/
def Row.Disjoint (a b : Row) : Prop := a.stop ≤ b.start ∨ b.stop ≤ a.start

/-- Rows kept apart overlap neither each other nor those that are joined. -/
def Unmixed (rows : List Row) : Prop :=
  (separate rows).1.Pairwise Row.Disjoint ∧ ∀ r ∈ (separate rows).1, ∀ s ∈ (separate rows).2, r.Disjoint s

lemma Row.disjoint_iff {a b : Row} (lasts : a.start < a.stop) (lasts' : b.start < b.stop) :
    a.Disjoint b ↔ ∀ t, ¬ (a.active t = true ∧ b.active t = true) := by
  simp only [Row.active_iff, Row.Disjoint]
  constructor
  · intro h t
    omega
  · intro h
    have := h (max a.start b.start)
    omega

lemma mended_covers (channel : c.channel name = .ok n) (made : mended c mode name rows = .ok out) (member : r ∈ rows)
    {t : Int} (on : r.active t = true) : ∃ s ∈ out, s.active t = true := by
  obtain ⟨stretches, rfl, spec⟩ := mended_spec channel made
  rcases mem_separate.mp member with apart | close
  · exact ⟨r, mem_append_left _ apart, on⟩
  · obtain ⟨s, hs, active⟩ := spec.covers r close t on
    exact ⟨s, mem_append_right _ hs, active⟩

lemma mended_channel (channel : c.channel name = .ok n) (bits : ∀ r ∈ rows, r.channel = twoTo n)
    (made : mended c mode name rows = .ok out) : ∀ r ∈ out, r.channel = twoTo n := by
  obtain ⟨stretches, rfl, spec⟩ := mended_spec channel made
  intro r hr
  rcases mem_append.mp hr with apart | joined
  · exact bits r (mem_separate.mpr (Or.inl apart))
  · exact spec.channel r joined

lemma mended_lasts (channel : c.channel name = .ok n) (lasts : ∀ r ∈ rows, r.start < r.stop)
    (made : mended c mode name rows = .ok out) : ∀ r ∈ out, r.start < r.stop := by
  obtain ⟨stretches, rfl, spec⟩ := mended_spec channel made
  intro r hr
  rcases mem_append.mp hr with apart | joined
  · exact lasts r (mem_separate.mpr (Or.inl apart))
  · exact spec.lasts r joined

lemma Stretches.disjoint_iff {limit bit : Int} {stretches : List Row} (spec : Stretches limit bit rows stretches)
    (lasts : ∀ s ∈ rows, s.start < s.stop) (positive : r.start < r.stop) (long : limit < r.length) :
    (∀ s ∈ stretches, r.Disjoint s) ↔ ∀ s ∈ rows, r.Disjoint s := by
  have miss : ∀ {t}, (∀ s ∈ rows, r.Disjoint s) → r.active t = true → anyAt rows t = true → False := by
    intro t apart on any
    obtain ⟨q, hq, on'⟩ := any_eq_true.mp any
    exact (Row.disjoint_iff positive (lasts q hq)).mp (apart q hq) t ⟨on, on'⟩
  constructor
  · intro apart s hs
    rw [Row.disjoint_iff positive (lasts s hs)]
    rintro t ⟨on, on'⟩
    obtain ⟨q, hq, active⟩ := spec.covers s hs t on'
    exact (Row.disjoint_iff positive (spec.lasts q hq)).mp (apart q hq) t ⟨on, active⟩
  · intro apart s hs
    rw [Row.disjoint_iff positive (spec.lasts s hs)]
    rintro t ⟨on, on'⟩
    rcases spec.within s hs t on' with any | ⟨u, v, hu, hv, anyU, anyV, few⟩
    · exact miss apart on any
    · -- The row reaches over one end of the gap that holds `t`.
      obtain ⟨lower, upper⟩ := Row.active_iff.mp on
      rw [Row.length] at long
      by_cases left : r.start ≤ u
      · exact miss apart (Row.active_iff.mpr ⟨left, by omega⟩) anyU
      · exact miss apart (Row.active_iff.mpr ⟨by omega, by omega⟩) anyV

lemma mended_disjoint_iff (channel : c.channel name = .ok n) (lasts : ∀ r ∈ rows, r.start < r.stop)
    (long : ∀ r ∈ rows, c.minLength + 1 < r.length) (made : mended c mode name rows = .ok out) :
    out.Pairwise Row.Disjoint ↔ Unmixed rows := by
  obtain ⟨stretches, rfl, spec⟩ := mended_spec channel made
  have order : stretches.Pairwise Row.Disjoint := spec.order.imp fun h => Or.inl h
  have cross : ∀ r ∈ (separate rows).1,
      ((∀ s ∈ stretches, r.Disjoint s) ↔ ∀ s ∈ (separate rows).2, r.Disjoint s) := by
    intro r hr
    have member := mem_separate.mpr (Or.inl hr)
    exact spec.disjoint_iff (fun s hs => lasts s (mem_separate.mpr (Or.inr hs))) (lasts r member) (long r member)
  rw [pairwise_append, Unmixed]
  constructor
  · rintro ⟨apart, -, mixed⟩
    exact ⟨apart, fun r hr => (cross r hr).mp (mixed r hr)⟩
  · rintro ⟨apart, mixed⟩
    exact ⟨apart, order, fun r hr => (cross r hr).mpr (mixed r hr)⟩

end EprBench.Pulser
