import EprBench.Proofs.Pulser.Factory
import EprBench.Proofs.Pulser.Gaps
import EprBench.Pulser.Commands

/-! Short gaps in the bits of a channel. Joining fills the gaps of a few ticks and nothing else. -/
namespace EprBench.Pulser

open List Outcome

/-! ### Neighbouring ones -/

lemma mem_zip_tail {xs : List Int} (ordered : xs.Pairwise (· < ·)) {a b : Int} :
    (a, b) ∈ xs.zip xs.tail ↔ a ∈ xs ∧ b ∈ xs ∧ a < b ∧ ∀ x ∈ xs, ¬ (a < x ∧ x < b) := by
  induction xs with
  | nil => simp
  | cons x xs ih =>
    obtain ⟨least, later⟩ := pairwise_cons.mp ordered
    cases xs with
    | nil =>
      simp only [tail_cons, zip_nil_right, not_mem_nil, mem_singleton, false_iff]
      rintro ⟨rfl, rfl, less, -⟩
      exact lt_irrefl _ less
    | cons y ys =>
      have next : x < y := least y mem_cons_self
      have above : ∀ z ∈ y :: ys, y ≤ z := by
        intro z member
        rcases mem_cons.mp member with rfl | member
        · exact le_refl _
        · exact ((pairwise_cons.mp later).1 z member).le
      rw [tail_cons, zip_cons_cons, mem_cons, Prod.mk.injEq]
      constructor
      · rintro (⟨rfl, rfl⟩ | here)
        · refine ⟨mem_cons_self, by simp, next, ?_⟩
          rintro z member ⟨lower, upper⟩
          rcases mem_cons.mp member with rfl | member
          · exact lt_irrefl _ lower
          · exact absurd upper (not_lt.mpr (above z member))
        · obtain ⟨ha, hb, less, between⟩ := (ih later).mp here
          refine ⟨mem_cons_of_mem _ ha, mem_cons_of_mem _ hb, less, ?_⟩
          rintro z member ⟨lower, upper⟩
          rcases mem_cons.mp member with rfl | member
          · exact absurd lower (not_lt.mpr (least a ha).le)
          · exact between z member ⟨lower, upper⟩
      · rintro ⟨ha, hb, less, between⟩
        have hb' : b ∈ y :: ys := by
          rcases mem_cons.mp hb with rfl | hb
          · rcases mem_cons.mp ha with rfl | ha
            · exact absurd less (lt_irrefl _)
            · exact absurd less (not_lt.mpr (least a ha).le)
          · exact hb
        rcases mem_cons.mp ha with rfl | ha
        · -- The first number is followed by the second one, or else that would lie between the two.
          refine .inl ⟨rfl, le_antisymm (not_lt.mp fun lower => ?_) (above b hb')⟩
          exact between y (by simp) ⟨next, lower⟩
        · exact .inr ((ih later).mpr ⟨ha, hb', less, fun z member => between z (mem_cons_of_mem _ member)⟩)

lemma mem_positions {bits : List Int} {k : Int} : k ∈ positions bits ↔ ∃ t : Nat, k = t ∧ bits.getD t 0 = 1 := by
  simp only [positions, mem_map, mem_filter, beq_iff_eq, getD_eq_getElem?_getD]
  constructor
  · rintro ⟨⟨b, t⟩, ⟨member, rfl⟩, rfl⟩
    exact ⟨t, rfl, by rw [List.mem_zipIdx_iff_getElem?.mp member]; rfl⟩
  · rintro ⟨t, rfl, one⟩
    cases bit : bits[t]? with
    | none => simp [bit] at one
    | some b =>
      rw [bit, Option.getD_some] at one
      subst one
      exact ⟨(1, t), ⟨List.mem_zipIdx_iff_getElem?.mpr bit, rfl⟩, rfl⟩

lemma positions_ordered (bits : List Int) : (positions bits).Pairwise (· < ·) := by
  have ordered : bits.zipIdx.Pairwise fun a b => a.2 < b.2 := by
    rw [← pairwise_map (R := (· < ·)) (f := Prod.snd), zipIdx_map_snd]
    exact List.pairwise_lt_range'
  rw [positions, pairwise_map]
  exact (ordered.filter _).imp fun h => by exact_mod_cast h

lemma hasShortGap_iff (c : Config) (bits : List Int) :
    hasShortGap c bits = true ↔ ∃ t, InShortGap (c.minLength - 1) bits t := by
  simp only [hasShortGap, any_eq_true, Prod.exists, mem_zip_tail (positions_ordered bits), Bool.and_eq_true,
    decide_eq_true_eq, mem_positions]
  constructor
  · rintro ⟨_, _, ⟨⟨u, rfl, hu⟩, ⟨v, rfl, hv⟩, -, between⟩, wide, short⟩
    refine ⟨u + 1, u, v, by omega, by omega, hu, hv, ?_, by omega⟩
    intro w after before one
    exact between w ⟨w, rfl, one⟩ ⟨by exact_mod_cast after, by exact_mod_cast before⟩
  · rintro ⟨t, u, v, hut, htv, hu, hv, between, short⟩
    refine ⟨u, v, ⟨⟨u, rfl, hu⟩, ⟨v, rfl, hv⟩, by omega, ?_⟩, by omega, by omega⟩
    rintro _ ⟨w, rfl, one⟩ ⟨after, before⟩
    exact between w (by exact_mod_cast after) (by exact_mod_cast before) one

/-! ### Channels that protect -/

lemma equals_int (m n : Int) : (Value.int m).equals (.int n) = .ok (m == n) := by
  have equal : (Value.int m).equals (.int n) = .ok (some (compare m n) == some .eq) := by
    simp [Value.equals, Value.compares, Value.isArray, Value.same, Value.number?, Value.Number.compare]
  rw [equal, Except.ok.injEq, Bool.eq_iff_iff]
  simp

lemma protects_of_mem {c : Config} {a b : Nat} (receiver : c.channel "LNA_PROTECT" = .ok a)
    (amplifier : c.channel "AMP_ON" = .ok b) {n : Nat} (member : n ∈ [a, b]) : protects c (.int n) = .ok true := by
  rw [protects, receiver, ok_bind, equals_int, ok_bind]
  by_cases first : n = a
  · rw [first, beq_self_eq_true, if_pos rfl]
    rfl
  · have second : n = b := by simpa [first] using member
    rw [if_neg (by simpa using first), amplifier, ok_bind, second, equals_int, beq_self_eq_true]

/-! ### What a script is told -/

lemma array_words (bits : List Int) : (⟨bits, .int⟩ : Words).array = arrayOf bits := by
  have numbers : bits.filterMap (fun n => (Value.int n).number?) = bits.map Value.Number.int := by
    rw [← filterMap_eq_map]
    rfl
  have whole : ∀ ns : List Int, ∀ f : Value.Number → Option Int, (∀ n, f (.int n) = some n) →
      (ns.map Value.Number.int).mapM f = some ns := by
    intro ns f read
    induction ns with
    | nil => rfl
    | cons n ns ih => simp [mapM_cons, read, ih]
  simp only [Words.array, Value.Numbers.ofCells, numbers]
  rw [whole bits _ fun n => rfl]
  rfl

lemma joinedBits_eq (p : Device) (bits : List Int) :
    p.joinedBits (arrayOf bits) = (joined p.config bits).map arrayOf := by
  have step : p.joinedBits (arrayOf bits) = (do return (⟨← joined p.config bits, .int⟩ : Words).array) := rfl
  simp only [step, array_words]
  rfl

lemma closedBits_eq {p : Device} {channel : Value} (protecting : protects p.config channel = .ok true) (bits : List Int) :
    p.closedBits (arrayOf bits) channel =
      if hasShortGap p.config bits then p.joinedBits (arrayOf bits) else .ok (arrayOf bits) := by
  have array : (!(arrayOf bits).isArray) = false := rfl
  have read : Words.ofValue (arrayOf bits) = .ok ⟨bits, .int⟩ := rfl
  simp only [Device.closedBits, array, Bool.false_eq_true, if_false, read, closeGaps, protecting, ok_bind, if_true,
    joinedBits_eq]
  cases hasShortGap p.config bits with
  | false => exact congrArg Except.ok (array_words bits)
  | true =>
    cases joined p.config bits with
    | error e => rfl
    | ok out => exact congrArg Except.ok (array_words out)

/-- Bits with a one are joined to bits of the same length: ones stay ones, zeros become ones between two ones that no more
zeros keep apart than the least length and one, and all other zeros stay. On the two channels that protect, bits are joined
exactly if fewer zeros than the least length lie between some two ones. -/
theorem short_gaps_are_filled (p : Device) {bits : List Int} (binary : Binary bits) (one : 1 ∈ bits) :
    ∃ out, p.joinedBits (arrayOf bits) = .ok (arrayOf out) ∧ out.length = bits.length ∧ Binary out ∧
      (∀ t, out.getD t 0 = 1 ↔ bits.getD t 0 = 1 ∨ InShortGap (p.config.minLength + 1) bits t) ∧
      ∀ a b, p.config.channel "LNA_PROTECT" = .ok a → p.config.channel "AMP_ON" = .ok b → ∀ n ∈ [a, b],
        ((∃ t, InShortGap (p.config.minLength - 1) bits t) → p.closedBits (arrayOf bits) (.int n) = .ok (arrayOf out)) ∧
        ((¬ ∃ t, InShortGap (p.config.minLength - 1) bits t) → p.closedBits (arrayOf bits) (.int n) = .ok (arrayOf bits)) := by
  obtain ⟨out, made, length, binaryOut, ones⟩ := joined_spec p.config binary one
  have told : p.joinedBits (arrayOf bits) = .ok (arrayOf out) := by
    rw [joinedBits_eq, made]
    rfl
  refine ⟨out, told, length, binaryOut, ones, ?_⟩
  intro a b receiver amplifier n member
  rw [← hasShortGap_iff, closedBits_eq (protects_of_mem receiver amplifier member), told]
  constructor
  · intro short
    rw [if_pos short]
  · intro long
    rw [if_neg long]

theorem factory_short_gap_is_filled : Binary [0, 1, 0, 0, 1, 0] ∧ (1 : Int) ∈ [0, 1, 0, 0, 1, 0] ∧
    ∃ out, (Device.make .factory .live).closedBits (arrayOf [0, 1, 0, 0, 1, 0]) (.int 1) = .ok (arrayOf out) ∧
      out.length = 6 ∧ out.getD 2 0 = 1 := by
  have binary : Binary [0, 1, 0, 0, 1, 0] := by simp [Binary]
  have one : (1 : Int) ∈ [0, 1, 0, 0, 1, 0] := by decide
  have gap : ∀ limit, 2 ≤ limit → InShortGap limit [0, 1, 0, 0, 1, 0] 2 := by
    intro limit wide
    refine ⟨1, 4, by decide, by decide, rfl, rfl, ?_, by simpa using wide⟩
    intro w after before
    obtain rfl | rfl : w = 2 ∨ w = 3 := by omega
    · decide
    · decide
  obtain ⟨out, -, length, -, ones, closed⟩ := short_gaps_are_filled (Device.make .factory .live) binary one
  have told := (closed 2 1 rfl rfl 1 (by decide)).1 ⟨2, gap _ (by decide)⟩
  exact ⟨binary, one, out, told, length, (ones 2).mpr (Or.inr (gap _ (by decide)))⟩

end EprBench.Pulser
