import EprBench.Proofs.Outcome
import EprBench.Proofs.Pulser.Runs

/-! Joining over short gaps: the zeros between two ones become ones exactly if there are few of them. -/
namespace EprBench.Pulser

open List

variable {bits inner : List Int}

/-- Nothing but zeros and ones. -/
def Binary (bits : List Int) : Prop := ∀ b ∈ bits, b = 0 ∨ b = 1

/-- A tick between two ones that at most `limit` zeros keep apart. -/
def InShortGap (limit : Int) (bits : List Int) (t : Nat) : Prop :=
  ∃ u v, u < t ∧ t < v ∧ bits.getD u 0 = 1 ∧ bits.getD v 0 = 1 ∧ (∀ w, u < w → w < v → bits.getD w 0 ≠ 1) ∧
    (v : Int) - u - 1 ≤ limit

inductive Blocks : List Int → Prop where
  | nil : Blocks []
  | block (zeros : Nat) {rest : List Int} : Blocks rest → Blocks (List.replicate zeros 0 ++ 1 :: rest)

/-! ### One gap after the other -/

def gapBit (limit : Int) (zeros : Nat) : Int := if (zeros : Int) ≤ limit then 1 else 0

lemma fillGaps_one (limit : Int) (seen rest : List Int) :
    fillGaps limit seen 0 (1 :: rest) = fillGaps limit (1 :: seen) 0 rest := by
  cases rest <;> simp [fillGaps]

lemma fillGaps_zeros (limit : Int) (seen rest : List Int) (counted zeros : Nat) :
    fillGaps limit (List.replicate counted 0 ++ seen) counted (List.replicate (zeros + 1) 0 ++ 1 :: rest) =
      fillGaps limit (List.replicate (counted + zeros + 1) (gapBit limit (counted + zeros + 1)) ++ seen) 0 (1 :: rest) := by
  induction zeros generalizing counted with
  | zero =>
    have dropped : (0 :: (List.replicate counted (0 : Int) ++ seen)).drop (counted + 1) = seen := by
      rw [drop_succ_cons, List.drop_left' (by simp)]
    by_cases h : (counted : Int) < limit
    · simp [fillGaps, gapBit, h, dropped]
    · have many : ¬ ((counted : Int) + 1 ≤ limit) := by omega
      simp [fillGaps, gapBit, h, many, replicate_succ]
  | succ zeros ih =>
    have count : counted + (zeros + 1) + 1 = counted + 1 + zeros + 1 := by omega
    rw [count, ← ih (counted + 1)]
    simp [fillGaps, replicate_succ]

lemma fillGaps_block (limit : Int) (seen rest : List Int) (zeros : Nat) :
    fillGaps limit seen 0 (List.replicate zeros 0 ++ 1 :: rest) =
      fillGaps limit (1 :: (List.replicate zeros (gapBit limit zeros) ++ seen)) 0 rest := by
  cases zeros with
  | zero => exact fillGaps_one limit seen rest
  | succ zeros =>
    have h := fillGaps_zeros limit seen rest 0 zeros
    rw [replicate_zero, nil_append, Nat.zero_add] at h
    rw [h, fillGaps_one]

lemma fillGaps_seen (limit : Int) (blocks : Blocks bits) (seen : List Int) :
    fillGaps limit seen 0 bits = seen.reverse ++ fillGaps limit [] 0 bits := by
  induction blocks generalizing seen with
  | nil => simp [fillGaps]
  | block zeros _ ih =>
    rw [fillGaps_block, ih, fillGaps_block limit [], ih (1 :: _)]
    simp

lemma fillGaps_cons (limit : Int) {rest : List Int} (blocks : Blocks rest) (zeros : Nat) :
    fillGaps limit [] 0 (List.replicate zeros 0 ++ 1 :: rest) =
      List.replicate zeros (gapBit limit zeros) ++ 1 :: fillGaps limit [] 0 rest := by
  rw [fillGaps_block, fillGaps_seen limit blocks]
  simp

lemma length_fillGaps (limit : Int) (blocks : Blocks bits) : (fillGaps limit [] 0 bits).length = bits.length := by
  induction blocks with
  | nil => rfl
  | block zeros later ih =>
    rw [fillGaps_cons limit later]
    simp [ih]

lemma binary_fillGaps (limit : Int) (blocks : Blocks bits) : Binary (fillGaps limit [] 0 bits) := by
  induction blocks with
  | nil => simp [fillGaps, Binary]
  | block zeros later ih =>
    rw [fillGaps_cons limit later]
    intro b hb
    rcases mem_append.mp hb with hb | hb
    · rw [eq_of_mem_replicate hb, gapBit]
      split
      · exact .inr rfl
      · exact .inl rfl
    · rcases mem_cons.mp hb with rfl | hb
      · exact .inr rfl
      · exact ih b hb

lemma getD_after_one (x : Int) (zeros : Nat) (rest : List Int) (t : Nat) :
    (1 :: (List.replicate zeros x ++ rest)).getD t 0 =
      if t = 0 then 1 else if t ≤ zeros then x else rest.getD (t - (zeros + 1)) 0 := by
  cases t with
  | zero => rfl
  | succ t =>
    rw [getD_cons_succ, if_neg (Nat.succ_ne_zero t)]
    by_cases h : t < zeros
    · rw [getD_append _ _ _ _ (by simpa using h), if_pos (by omega), getD_eq_getElem _ _ (by simpa using h),
        getElem_replicate]
    · rw [getD_append_right _ _ _ _ (by simpa using h), if_neg (by omega), length_replicate,
        Nat.add_sub_add_right]

lemma inShortGap_first (limit : Int) {zeros : Nat} (rest : List Int) {t : Nat} (after : 0 < t) (inside : t ≤ zeros) :
    InShortGap limit (1 :: (List.replicate zeros 0 ++ 1 :: rest)) t ↔ (zeros : Int) ≤ limit := by
  constructor
  · rintro ⟨u, v, hut, htv, hu, hv, between, few⟩
    rw [getD_after_one] at hu hv
    have hu0 : u = 0 := by
      by_contra h
      rw [if_neg h, if_pos (by omega)] at hu
      omega
    have hv0 : zeros < v := by
      by_contra h
      rw [if_neg (by omega), if_pos (by omega)] at hv
      omega
    have hv1 : v = zeros + 1 := by
      by_contra h
      apply between (zeros + 1) (by omega) (by omega)
      rw [getD_after_one, if_neg (by omega), if_neg (by omega), Nat.sub_self]
      rfl
    omega
  · intro few
    refine ⟨0, zeros + 1, after, by omega, rfl, ?_, ?_, by omega⟩
    · rw [getD_after_one, if_neg (by omega), if_neg (by omega), Nat.sub_self]
      rfl
    · intro w hw hw'
      rw [getD_after_one, if_neg (by omega), if_pos (by omega)]
      decide

lemma inShortGap_later (limit : Int) {zeros : Nat} (rest : List Int) {t : Nat} (behind : zeros < t) :
    InShortGap limit (1 :: (List.replicate zeros 0 ++ 1 :: rest)) t ↔
      InShortGap limit (1 :: rest) (t - (zeros + 1)) := by
  have shift : ∀ w, zeros < w →
      (1 :: (List.replicate zeros 0 ++ 1 :: rest)).getD w 0 = (1 :: rest).getD (w - (zeros + 1)) 0 := by
    intro w hw
    rw [getD_after_one, if_neg (by omega), if_neg (by omega)]
  constructor
  · rintro ⟨u, v, hut, htv, hu, hv, between, few⟩
    have hu' : zeros < u := by
      -- Otherwise the one that ends the first gap would lie between the two.
      by_contra h
      apply between (zeros + 1) (by omega) (by omega)
      rw [shift _ (by omega), Nat.sub_self]
      rfl
    refine ⟨u - (zeros + 1), v - (zeros + 1), by omega, by omega, ?_, ?_, ?_, by omega⟩
    · rw [← shift u hu']
      exact hu
    · rw [← shift v (by omega)]
      exact hv
    · intro w hw hw'
      have := between (w + (zeros + 1)) (by omega) (by omega)
      rwa [shift _ (by omega), Nat.add_sub_cancel] at this
  · rintro ⟨u, v, hut, htv, hu, hv, between, few⟩
    refine ⟨u + (zeros + 1), v + (zeros + 1), by omega, by omega, ?_, ?_, ?_, by omega⟩
    · rw [shift _ (by omega), Nat.add_sub_cancel]
      exact hu
    · rw [shift _ (by omega), Nat.add_sub_cancel]
      exact hv
    · intro w hw hw'
      rw [shift w (by omega)]
      exact between _ (by omega) (by omega)

lemma getD_fillGaps (limit : Int) (blocks : Blocks bits) (t : Nat) : (fillGaps limit [] 0 (1 :: bits)).getD t 0 = 1 ↔
      (1 :: bits).getD t 0 = 1 ∨ InShortGap limit (1 :: bits) t := by
  have start : ∀ {rest : List Int}, Blocks rest → fillGaps limit [] 0 (1 :: rest) = 1 :: fillGaps limit [] 0 rest :=
    fun h => fillGaps_cons limit h 0
  rw [start blocks]
  induction blocks generalizing t with
  | nil =>
    have outside : ¬ InShortGap limit [1] t := by
      rintro ⟨u, v, _, htv, _, hv, _⟩
      cases v with
      | zero => omega
      | succ v => simp at hv
    simp [fillGaps, outside]
  | @block zeros rest later ih =>
    rw [fillGaps_cons limit later, getD_after_one, getD_after_one]
    rcases Nat.eq_zero_or_pos t with rfl | positive
    · simp
    have nonzero : t ≠ 0 := by omega
    by_cases inside : t ≤ zeros
    · simp only [if_neg nonzero, if_pos inside, inShortGap_first limit rest positive inside]
      simp [gapBit]
    · simp only [if_neg nonzero, if_neg inside, ih, inShortGap_later limit rest (Nat.lt_of_not_le inside)]

/-! ### Whole rows of bits -/

lemma exists_ones (binary : Binary bits) (one : 1 ∈ bits) : ∃ before inner after, Blocks inner ∧
      bits = List.replicate before 0 ++ 1 :: inner ++ List.replicate after 0 := by
  induction bits with
  | nil => simp at one
  | cons b rest ih =>
    have binary' : Binary rest := fun x hx => binary x (mem_cons_of_mem _ hx)
    by_cases later : 1 ∈ rest
    · obtain ⟨before, inner, after, blocks, rfl⟩ := ih binary' later
      rcases binary b mem_cons_self with rfl | rfl
      · exact ⟨before + 1, inner, after, blocks, by simp [replicate_succ]⟩
      · exact ⟨0, _, after, Blocks.block before blocks, by simp⟩
    · have zeros : rest = List.replicate rest.length 0 := eq_replicate_iff.mpr
        ⟨rfl, fun x hx => (binary' x hx).resolve_right fun h => later (h ▸ hx)⟩
      have hb : b = 1 := by
        rcases mem_cons.mp one with h | h
        · exact h.symm
        · exact absurd h later
      exact ⟨0, [], rest.length, Blocks.nil, by rw [hb]; simpa using zeros⟩

lemma Blocks.ends_with_one (blocks : Blocks inner) : ∃ front, 1 :: inner = front ++ [1] := by
  induction blocks with
  | nil => exact ⟨[], rfl⟩
  | block zeros _ ih =>
    obtain ⟨front, h⟩ := ih
    exact ⟨1 :: (List.replicate zeros 0 ++ front), by rw [h]; simp⟩

lemma betweenOnes_eq (blocks : Blocks inner) (before after : Nat) :
    betweenOnes (List.replicate before 0 ++ 1 :: inner ++ List.replicate after 0) = (before, 1 :: inner, after) := by
  obtain ⟨front, last⟩ := blocks.ends_with_one
  have first : (List.replicate before 0 ++ 1 :: inner ++ List.replicate after 0).takeWhile (· != (1 : Int)) =
      List.replicate before 0 := by
    rw [append_assoc, takeWhile_append_of_pos (by simp)]
    simp
  have final : (List.replicate before 0 ++ 1 :: inner ++ List.replicate after 0).reverse.takeWhile (· != (1 : Int)) =
      List.replicate after 0 := by
    rw [reverse_append, reverse_replicate, takeWhile_append_of_pos (by simp), last]
    simp
  have middle : before + (inner.length + 1) + after - before - after = inner.length + 1 := by omega
  simp only [betweenOnes, first, final, length_replicate, length_append, length_cons, middle]
  rw [append_assoc, List.drop_left' (by simp), List.take_left' (by simp)]

lemma joined_eq (c : Config) (blocks : Blocks inner) (before after : Nat) :
    joined c (List.replicate before 0 ++ 1 :: inner ++ List.replicate after 0) =
      .ok (List.replicate before 0 ++ fillGaps (c.minLength + 1) [] 0 (1 :: inner) ++ List.replicate after 0) := by
  have one : (List.replicate before 0 ++ 1 :: inner ++ List.replicate after 0).contains (1 : Int) = true := by simp
  rw [joined, one, betweenOnes_eq blocks]
  rfl

lemma getD_padded (before after : Nat) (bits : List Int) (t : Nat) :
    (List.replicate before 0 ++ bits ++ List.replicate after 0).getD t 0 =
      if t < before then 0 else bits.getD (t - before) 0 := by
  have zeros : ∀ n k, (List.replicate n (0 : Int)).getD k 0 = 0 := by simp
  have tail : ∀ k, (bits ++ List.replicate after 0).getD k 0 = bits.getD k 0 := by
    intro k
    by_cases h : k < bits.length
    · rw [getD_append _ _ _ _ h]
    · rw [getD_append_right _ _ _ _ (by omega), zeros, getD_eq_default _ _ (by omega)]
  rw [append_assoc]
  by_cases h : t < before
  · rw [getD_append _ _ _ _ (by simpa using h), if_pos h, zeros]
  · rw [getD_append_right _ _ _ _ (by simpa using h), if_neg h, length_replicate, tail]

lemma inShortGap_padded (limit : Int) (before after : Nat) (bits : List Int) (t : Nat) :
    InShortGap limit (List.replicate before 0 ++ bits ++ List.replicate after 0) t ↔
      before ≤ t ∧ InShortGap limit bits (t - before) := by
  have inside : ∀ {w}, (List.replicate before 0 ++ bits ++ List.replicate after 0).getD w 0 = 1 → before ≤ w := by
    intro w hw
    by_contra h
    rw [getD_padded, if_pos (by omega)] at hw
    omega
  have shift : ∀ {w}, before ≤ w → (List.replicate before 0 ++ bits ++ List.replicate after 0).getD w 0 =
      bits.getD (w - before) 0 := by
    intro w hw
    rw [getD_padded, if_neg (by omega)]
  constructor
  · rintro ⟨u, v, hut, htv, hu, hv, between, few⟩
    have hu' := inside hu
    refine ⟨by omega, u - before, v - before, by omega, by omega, ?_, ?_, ?_, by omega⟩
    · rw [← shift hu']
      exact hu
    · rw [← shift (by omega)]
      exact hv
    · intro w hw hw'
      have := between (w + before) (by omega) (by omega)
      rwa [shift (by omega), Nat.add_sub_cancel] at this
  · rintro ⟨ht, u, v, hut, htv, hu, hv, between, few⟩
    refine ⟨u + before, v + before, by omega, by omega, ?_, ?_, ?_, by omega⟩
    · rw [shift (by omega), Nat.add_sub_cancel]
      exact hu
    · rw [shift (by omega), Nat.add_sub_cancel]
      exact hv
    · intro w hw hw'
      rw [shift (by omega)]
      exact between _ (by omega) (by omega)

lemma joined_spec (c : Config) (binary : Binary bits) (one : 1 ∈ bits) :
    ∃ out, joined c bits = .ok out ∧ out.length = bits.length ∧ Binary out ∧
      ∀ t, out.getD t 0 = 1 ↔ bits.getD t 0 = 1 ∨ InShortGap (c.minLength + 1) bits t := by
  obtain ⟨before, inner, after, blocks, rfl⟩ := exists_ones binary one
  have whole : Blocks (1 :: inner) := Blocks.block 0 blocks
  refine ⟨_, joined_eq c blocks before after, ?_, ?_, ?_⟩
  · rw [length_append, length_append, length_fillGaps _ whole, length_append, length_append]
  · intro b hb
    rcases mem_append.mp hb with hb | hb
    · rcases mem_append.mp hb with hb | hb
      · exact .inl (eq_of_mem_replicate hb)
      · exact binary_fillGaps _ whole b hb
    · exact .inl (eq_of_mem_replicate hb)
  · intro t
    rw [getD_padded, getD_padded, inShortGap_padded]
    by_cases h : t < before
    · have h' : ¬ before ≤ t := by omega
      simp [h, h']
    · have h' : before ≤ t := by omega
      simp only [if_neg h, h', true_and]
      exact getD_fillGaps _ blocks _

end EprBench.Pulser
