import EprBench.Proofs.Pulser.Runs

/-! The words of a set of rows. The word at a tick is a sum over the rows. -/
namespace EprBench.Pulser

open List

variable {t lo hi : Int}

variable {r : Row}

lemma Row.active_iff : r.active t = true ↔ r.start ≤ t ∧ t < r.stop := by
  simp [Row.active]

structure Row.Proper (r : Row) : Prop where
  channel_pos : 0 < r.channel
  lasts : r.start < r.stop

lemma wordAt_eq_sum (rows : List Row) (t : Int) :
    wordAt rows t = (rows.map fun r => if r.active t then r.channel else 0).sum := by
  suffices h : ∀ w : Int, rows.foldl (fun w r => if r.active t then w + r.channel else w) w =
      w + (rows.map fun r => if r.active t then r.channel else 0).sum by
    simpa [wordAt] using h 0
  induction rows with
  | nil => simp
  | cons r rows ih =>
    intro w
    simp only [foldl_cons, ih, map_cons, sum_cons]
    split <;> ring

@[simp] lemma wordAt_nil (t : Int) : wordAt [] t = 0 := rfl

lemma wordAt_append (xs ys : List Row) (t : Int) : wordAt (xs ++ ys) t = wordAt xs t + wordAt ys t := by
  simp [wordAt_eq_sum]

lemma wordAt_perm {xs ys : List Row} (same : xs.Perm ys) (t : Int) : wordAt xs t = wordAt ys t := by
  rw [wordAt_eq_sum, wordAt_eq_sum]
  exact (same.map _).sum_eq

variable {rows : List Row}

lemma wordAt_idle (off : ∀ r ∈ rows, r.active t = false) : wordAt rows t = 0 := by
  rw [wordAt_eq_sum]
  apply sum_eq_zero
  intro w hw
  obtain ⟨r, hr, rfl⟩ := mem_map.mp hw
  simp [off r hr]

lemma wordAt_pos (bits : ∀ r ∈ rows, 0 < r.channel) (member : r ∈ rows)
    (on : r.active t = true) : 0 < wordAt rows t := by
  obtain ⟨front, back, rfl⟩ := append_of_mem member
  have nonneg : ∀ xs : List Row, (∀ r ∈ xs, 0 < r.channel) → 0 ≤ wordAt xs t := by
    intro xs hx
    rw [wordAt_eq_sum]
    apply sum_nonneg
    intro w hw
    obtain ⟨s, hs, rfl⟩ := mem_map.mp hw
    split
    · exact le_of_lt (hx s hs)
    · exact le_refl _
  have h₁ := nonneg front fun s hs => bits s (by simp [hs])
  have h₂ := nonneg back fun s hs => bits s (by simp [hs])
  have here : wordAt (r :: back) t = r.channel + wordAt back t := by
    simp [wordAt_eq_sum, on]
  rw [wordAt_append, here]
  have := bits r member
  omega

/-! ### First start and last end -/

lemma foldl_min_le (xs : List Int) (a : Int) : xs.foldl min a ≤ a ∧ ∀ x ∈ xs, xs.foldl min a ≤ x := by
  induction xs generalizing a with
  | nil => simp
  | cons x xs ih =>
    obtain ⟨h₁, h₂⟩ := ih (min a x)
    refine ⟨le_trans h₁ (min_le_left a x), ?_⟩
    intro y hy
    rcases mem_cons.mp hy with rfl | hy
    · exact le_trans h₁ (min_le_right a y)
    · exact h₂ y hy

lemma le_foldl_max (xs : List Int) (a : Int) : a ≤ xs.foldl max a ∧ ∀ x ∈ xs, x ≤ xs.foldl max a := by
  induction xs generalizing a with
  | nil => simp
  | cons x xs ih =>
    obtain ⟨h₁, h₂⟩ := ih (max a x)
    refine ⟨le_trans (le_max_left a x) h₁, ?_⟩
    intro y hy
    rcases mem_cons.mp hy with rfl | hy
    · exact le_trans (le_max_right a y) h₁
    · exact h₂ y hy

lemma foldl_choice_mem (f : Int → Int → Int) (choice : ∀ a b, f a b = a ∨ f a b = b) (xs : List Int) (a : Int) :
    xs.foldl f a ∈ a :: xs := by
  induction xs generalizing a with
  | nil => simp
  | cons x xs ih =>
    rw [foldl_cons]
    rcases mem_cons.mp (ih (f a x)) with h | h
    · rw [h]
      rcases choice a x with e | e <;> simp [e]
    · exact mem_cons_of_mem _ (mem_cons_of_mem _ h)

lemma firstStart_le (member : r ∈ rows) : firstStart rows ≤ r.start :=
  (foldl_min_le (rows.map Row.start) _).2 _ (mem_map_of_mem member)

lemma le_lastStop (member : r ∈ rows) : r.stop ≤ lastStop rows :=
  (le_foldl_max (rows.map Row.stop) _).2 _ (mem_map_of_mem member)

lemma exists_firstStart (some : rows ≠ []) : ∃ r ∈ rows, r.start = firstStart rows := by
  obtain ⟨r, rest, rfl⟩ := exists_cons_of_ne_nil some
  have h := foldl_choice_mem min (fun a b => min_choice a b) ((r :: rest).map Row.start) r.start
  have chosen : firstStart (r :: rest) ∈ (r :: rest).map Row.start := by
    simpa [firstStart] using h
  exact mem_map.mp chosen

lemma exists_lastStop (some : rows ≠ []) : ∃ r ∈ rows, r.stop = lastStop rows := by
  obtain ⟨r, rest, rfl⟩ := exists_cons_of_ne_nil some
  have h := foldl_choice_mem max (fun a b => max_choice a b) ((r :: rest).map Row.stop) r.stop
  have chosen : lastStop (r :: rest) ∈ (r :: rest).map Row.stop := by
    simpa [lastStop] using h
  exact mem_map.mp chosen

lemma firstStart_eq (member : r ∈ rows) (least : ∀ s ∈ rows, r.start ≤ s.start) : firstStart rows = r.start := by
  obtain ⟨s, hs, h⟩ := exists_firstStart (ne_nil_of_mem member)
  exact le_antisymm (firstStart_le member) (h ▸ least s hs)

lemma lastStop_eq (member : r ∈ rows) (greatest : ∀ s ∈ rows, s.stop ≤ r.stop) : lastStop rows = r.stop := by
  obtain ⟨s, hs, h⟩ := exists_lastStop (ne_nil_of_mem member)
  exact le_antisymm (h ▸ greatest s hs) (le_lastStop member)

lemma firstStart_lt_lastStop (some : rows ≠ []) (proper : ∀ r ∈ rows, r.Proper) :
    firstStart rows < lastStop rows := by
  obtain ⟨r, hr, h⟩ := exists_firstStart some
  have h₁ := (proper r hr).lasts
  have h₂ := le_lastStop hr
  omega

/-! ### Words between two ticks -/

lemma length_wordsBetween (rows : List Row) (lo hi : Int) : (wordsBetween rows lo hi).length = (hi - lo).toNat := by
  simp [wordsBetween]

lemma getElem?_wordsBetween (rows : List Row) (lo hi : Int) (k : Nat) :
    (wordsBetween rows lo hi)[k]? = if k < (hi - lo).toNat then some (wordAt rows (lo + k)) else none := by
  by_cases h : k < (hi - lo).toNat
  · rw [wordsBetween, getElem?_map, getElem?_range h, if_pos h]
    rfl
  · rw [if_neg h, getElem?_eq_none (by rw [length_wordsBetween]; omega)]

lemma wordsBetween_congr {xs ys : List Row}
    (same : ∀ t, lo ≤ t → t < hi → wordAt xs t = wordAt ys t) : wordsBetween xs lo hi = wordsBetween ys lo hi := by
  apply map_congr_left
  intro k hk
  have := mem_range.mp hk
  exact same _ (by omega) (by omega)

lemma wordsBetween_append (rows : List Row) {mid : Int} (h₁ : lo ≤ mid) (h₂ : mid ≤ hi) :
    wordsBetween rows lo hi = wordsBetween rows lo mid ++ wordsBetween rows mid hi := by
  apply List.ext_getElem?
  intro k
  rw [getElem?_wordsBetween]
  by_cases h : k < (mid - lo).toNat
  · rw [getElem?_append_left (by simpa [length_wordsBetween] using h), getElem?_wordsBetween, if_pos h,
      if_pos (by omega)]
  · have place : lo + (k : Int) = mid + ((k - (mid - lo).toNat : Nat) : Int) := by omega
    rw [getElem?_append_right (by simpa [length_wordsBetween] using h), length_wordsBetween,
      getElem?_wordsBetween, place]
    exact if_congr (by omega) rfl rfl

lemma wordsBetween_idle (idle : ∀ t, lo ≤ t → t < hi → wordAt rows t = 0) :
    wordsBetween rows lo hi = List.replicate (hi - lo).toNat 0 := by
  rw [eq_replicate_iff]
  refine ⟨length_wordsBetween rows lo hi, ?_⟩
  intro w hw
  obtain ⟨k, hk, rfl⟩ := mem_map.mp hw
  have := mem_range.mp hk
  exact idle _ (by omega) (by omega)

lemma head?_wordsBetween (rows : List Row) (some : lo < hi) :
    (wordsBetween rows lo hi).head? = Option.some (wordAt rows lo) := by
  rw [List.head?_eq_getElem?, getElem?_wordsBetween, if_pos (by omega)]
  simp

lemma getLast?_wordsBetween (rows : List Row) (some : lo < hi) :
    (wordsBetween rows lo hi).getLast? = Option.some (wordAt rows (hi - 1)) := by
  have place : lo + (((hi - lo).toNat - 1 : Nat) : Int) = hi - 1 := by omega
  rw [List.getLast?_eq_getElem?, length_wordsBetween, getElem?_wordsBetween, if_pos (by omega), place]

lemma wordAt_firstStart_pos (some : rows ≠ []) (proper : ∀ r ∈ rows, r.Proper) :
    0 < wordAt rows (firstStart rows) := by
  obtain ⟨r, hr, h⟩ := exists_firstStart some
  refine wordAt_pos (fun s hs => (proper s hs).channel_pos) hr (Row.active_iff.mpr ⟨le_of_eq h, ?_⟩)
  have := (proper r hr).lasts
  omega

lemma wordAt_last_pos (some : rows ≠ []) (proper : ∀ r ∈ rows, r.Proper) : 0 < wordAt rows (lastStop rows - 1) := by
  obtain ⟨r, hr, h⟩ := exists_lastStop some
  have := (proper r hr).lasts
  exact wordAt_pos (fun s hs => (proper s hs).channel_pos) hr (Row.active_iff.mpr ⟨by omega, by omega⟩)

lemma wordAt_before (before : t < firstStart rows) : wordAt rows t = 0 := by
  refine wordAt_idle fun r hr => ?_
  have := firstStart_le hr
  simp only [Row.active, Bool.and_eq_false_iff, decide_eq_false_iff_not]
  omega

lemma wordAt_after (after : lastStop rows ≤ t) : wordAt rows t = 0 := by
  refine wordAt_idle fun r hr => ?_
  have := le_lastStop hr
  simp only [Row.active, Bool.and_eq_false_iff, decide_eq_false_iff_not]
  omega

/-! ### Rows that last -/

def busy (rows : List Row) : List Row := rows.filter fun r => r.start < r.stop

lemma mem_busy : r ∈ busy rows ↔ r ∈ rows ∧ r.start < r.stop := by
  simp [busy]

lemma busy_proper (bits : ∀ r ∈ rows, 0 < r.channel) : ∀ r ∈ busy rows, r.Proper := by
  intro r hr
  obtain ⟨member, lasts⟩ := mem_busy.mp hr
  exact ⟨bits r member, lasts⟩

lemma busy_eq_self (proper : ∀ r ∈ rows, r.Proper) : busy rows = rows :=
  filter_eq_self.mpr fun r hr => decide_eq_true (proper r hr).lasts

lemma wordAt_busy (rows : List Row) (t : Int) : wordAt (busy rows) t = wordAt rows t := by
  induction rows with
  | nil => rfl
  | cons r rows ih =>
    have split : wordAt (r :: rows) t = wordAt [r] t + wordAt rows t := wordAt_append [r] rows t
    by_cases lasts : r.start < r.stop
    · have kept : busy (r :: rows) = [r] ++ busy rows := by simp [busy, lasts]
      rw [kept, wordAt_append, ih, split]
    · have dropped : busy (r :: rows) = busy rows := by simp [busy, lasts]
      have off : wordAt [r] t = 0 := wordAt_idle fun s hs => by
        rw [mem_singleton.mp hs]
        simp only [Row.active, Bool.and_eq_false_iff, decide_eq_false_iff_not]
        omega
      rw [dropped, ih, split, off, zero_add]

lemma firstStart_le_busy (some : busy rows ≠ []) : firstStart rows ≤ firstStart (busy rows) := by
  obtain ⟨r, hr, h⟩ := exists_firstStart some
  exact h ▸ firstStart_le (mem_busy.mp hr).1

lemma lastStop_busy_le (some : busy rows ≠ []) : lastStop (busy rows) ≤ lastStop rows := by
  obtain ⟨r, hr, h⟩ := exists_lastStop some
  exact h ▸ le_lastStop (mem_busy.mp hr).1

def busyWords (lo : Int) (rows : List Row) : List Int :=
  if rows = [] then [] else wordsBetween rows lo (lastStop rows)

lemma withoutIdleEnd_words (bits : ∀ r ∈ rows, 0 < r.channel) (before : lo < firstStart rows) :
    withoutIdleEnd (wordsBetween rows lo (lastStop rows)) = busyWords lo (busy rows) := by
  have same : wordsBetween rows lo (lastStop rows) = wordsBetween (busy rows) lo (lastStop rows) :=
    wordsBetween_congr fun t _ _ => (wordAt_busy rows t).symm
  rw [same, busyWords]
  split
  · rename_i none
    rw [none, wordsBetween_idle fun t _ _ => rfl]
    exact withoutIdleEnd_idle [] _ (by simp)
  · rename_i some
    have proper := busy_proper bits
    have span := firstStart_lt_lastStop some proper
    have start := firstStart_le_busy some
    rw [wordsBetween_append (busy rows) (by omega : lo ≤ lastStop (busy rows)) (lastStop_busy_le some),
      wordsBetween_idle fun t ht _ => wordAt_after ht]
    apply withoutIdleEnd_idle
    intro w hw
    rw [getLast?_wordsBetween _ (by omega), Option.mem_some_iff] at hw
    have := wordAt_last_pos some proper
    omega

lemma words_eq (some : rows ≠ []) (forward : ∀ r ∈ rows, r.start ≤ r.stop) :
    words rows = .ok (wordsBetween rows (firstStart rows - leadIn) (lastStop rows), firstStart rows - leadIn) := by
  have filled : rows.isEmpty = false := by simpa using some
  have forward' : (rows.any fun r => decide (r.stop < r.start)) = false := by
    rw [any_eq_false]
    intro r hr
    have := forward r hr
    simp only [decide_eq_true_eq]
    omega
  simp only [words, filled, forward']
  rfl

lemma leadIn_before (rows : List Row) : firstStart rows - leadIn < firstStart rows := by
  have lead : 0 < leadIn := by decide
  omega

lemma instructions_words (bits : ∀ r ∈ rows, 0 < r.channel) (timebase : Int) :
    instructions timebase (wordsBetween rows (firstStart rows - leadIn) (lastStop rows)) =
      .ok (place timebase 0 (runs (busyWords (firstStart rows - leadIn) (busy rows)))) := by
  have before := leadIn_before rows
  rw [instructions_eq, withoutIdleEnd_words bits before, if_neg]
  intro started
  rw [List.head?_eq_getElem?, getElem?_wordsBetween] at started
  split at started
  · rw [Nat.cast_zero, add_zero, wordAt_before before] at started
    exact absurd started (by decide)
  · exact absurd started (by decide)

lemma runs_words (some : rows ≠ []) (proper : ∀ r ∈ rows, r.Proper) (before : lo < firstStart rows) :
    runs (wordsBetween rows lo (lastStop rows)) =
      ⟨0, (firstStart rows - lo).toNat⟩ :: runs (wordsBetween rows (firstStart rows) (lastStop rows)) := by
  have span := firstStart_lt_lastStop some proper
  have start := wordAt_firstStart_pos some proper
  rw [wordsBetween_append rows (le_of_lt before) (le_of_lt span),
    wordsBetween_idle (fun t _ ht => wordAt_before ht), runs_append]
  · obtain ⟨n, hn⟩ : ∃ n, (firstStart rows - lo).toNat = n + 1 := ⟨(firstStart rows - lo).toNat - 1, by omega⟩
    rw [hn, runs_replicate, singleton_append]
  · intro x hx y hy
    rw [head?_wordsBetween rows span, Option.mem_some_iff] at hy
    have zero : x = 0 := eq_of_mem_replicate (List.mem_of_getLast? hx)
    omega

end EprBench.Pulser
