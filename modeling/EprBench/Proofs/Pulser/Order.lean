import Mathlib
import EprBench.Pulser.Protection

/-! Rows in order, and lists cut into pieces. -/
namespace EprBench.Pulser

open List

namespace Row

lemma sortBy_eq_insertionSort (before : Row → Row → Bool) (rows : List Row) :
    sortBy before rows = rows.insertionSort fun a b => before a b = true := by
  have step : ∀ (r : Row) (rest : List Row),
      insertBy before r rest = rest.orderedInsert (fun a b => before a b = true) r := by
    intro r rest
    induction rest with
    | nil => rfl
    | cons s rest ih => simp [insertBy, ih]
  induction rows with
  | nil => rfl
  | cons r rows ih =>
    rw [insertionSort_cons, ← ih]
    exact step r (sortBy before rows)

lemma sortBy_perm (before : Row → Row → Bool) (rows : List Row) : (sortBy before rows).Perm rows := by
  rw [sortBy_eq_insertionSort]
  exact perm_insertionSort _ rows

lemma sortBy_pairwise (before : Row → Row → Bool) (total : ∀ a b, before a b = true ∨ before b a = true)
    (trans : ∀ a b c, before a b = true → before b c = true → before a c = true) (rows : List Row) :
    (sortBy before rows).Pairwise fun a b => before a b = true := by
  rw [sortBy_eq_insertionSort]
  have : Std.Total fun a b => before a b = true := ⟨total⟩
  have : IsTrans Row fun a b => before a b = true := ⟨trans⟩
  exact pairwise_insertionSort _ rows

@[simp] lemma mem_sortByChannel {r : Row} {rows : List Row} : r ∈ sortByChannel rows ↔ r ∈ rows :=
  (sortBy_perm _ rows).mem_iff

lemma sortByStart_perm (rows : List Row) : (sortByStart rows).Perm rows := sortBy_perm _ rows

lemma sortByStart_pairwise (rows : List Row) : (sortByStart rows).Pairwise fun a b => a.start ≤ b.start := by
  have h := sortBy_pairwise (fun a b => decide (a.start ≤ b.start))
    (by intro a b; simpa using le_total a.start b.start)
    (by intro a b c; simpa using le_trans) rows
  exact h.imp fun hab => by simpa using hab

lemma sortByChannel_pairwise (rows : List Row) : (sortByChannel rows).Pairwise fun a b => a.channel ≤ b.channel := by
  have h := sortBy_pairwise (fun a b => decide (a.channel ≤ b.channel))
    (by intro a b; simpa using le_total a.channel b.channel)
    (by intro a b c; simpa using le_trans) rows
  exact h.imp fun hab => by simpa using hab

@[simp] lemma mem_distinct {r : Row} {rows : List Row} : r ∈ distinct rows ↔ r ∈ rows := by
  rw [distinct, (sortBy_perm _ _).mem_iff, mem_eraseDups]

end Row

/-! ### Cutting a list -/

section Cutting

variable {α : Type}

def AcrossCuts (linked : α → α → Bool) (related : α → α → Prop) (l : List α) : Prop :=
  ∀ xs ys, l = xs ++ ys → ∀ x ∈ xs.getLast?, ∀ y ∈ ys.head?, linked x y = false →
    ∀ a ∈ xs, ∀ b ∈ ys, related a b

variable {linked : α → α → Bool} {related : α → α → Prop}

lemma pairwise_of_acrossCuts {pieces : List (List α)} (filled : ∀ p ∈ pieces, p ≠ [])
    (cut : pieces.IsChain fun p q => ∃ hp hq, linked (p.getLast hp) (q.head hq) = false)
    (across : AcrossCuts linked related pieces.flatten) :
    pieces.Pairwise fun p q => ∀ a ∈ p, ∀ b ∈ q, related a b := by
  induction pieces with
  | nil => exact List.Pairwise.nil
  | cons p pieces ih =>
    refine List.Pairwise.cons ?_ (ih (fun q hq => filled q (mem_cons_of_mem _ hq)) cut.tail ?_)
    · intro q hq a ha b hb
      cases pieces with
      | nil => simp at hq
      | cons q' pieces =>
        obtain ⟨hp, hq', open_⟩ := (isChain_cons_cons.mp cut).1
        refine across p (q' :: pieces).flatten rfl (p.getLast hp) (getLast?_eq_some_getLast hp)
          (q'.head hq') ?_ open_ a ha b (List.mem_flatten.mpr ⟨q, hq, hb⟩)
        rw [flatten_cons, head?_append, head?_eq_some_head hq', Option.some_or, Option.mem_some_iff]
    · intro xs ys split x hx y hy open_ a ha b hb
      refine across (p ++ xs) ys (by rw [flatten_cons, split, append_assoc]) x ?_ y hy open_ a
        (mem_append_right _ ha) b hb
      rw [getLast?_append, hx, Option.some_or, Option.mem_some_iff]

lemma pairwise_splitBy {l : List α} (across : AcrossCuts linked related l) :
    (l.splitBy linked).Pairwise fun p q => ∀ a ∈ p, ∀ b ∈ q, related a b :=
  pairwise_of_acrossCuts (fun _ hp => ne_nil_of_mem_splitBy hp) (isChain_getLast_head_splitBy _ _)
    (by rwa [flatten_splitBy])

lemma acrossCuts_of_pairwise {l : List α}
    (apart : (l.splitBy linked).Pairwise fun p q => ∀ a ∈ p, ∀ b ∈ q, related a b) : AcrossCuts linked related l := by
  intro xs ys split x hx y hy open_ a ha b hb
  subst split
  have boundary : ∀ x' ∈ xs.getLast?, ∀ y' ∈ ys.head?, linked x' y' = false := by
    intro x' hx' y' hy'
    rw [Option.mem_unique hx' hx, Option.mem_unique hy' hy]
    exact open_
  rw [splitBy_append boundary, pairwise_append] at apart
  rw [← flatten_splitBy linked xs, List.mem_flatten] at ha
  rw [← flatten_splitBy linked ys, List.mem_flatten] at hb
  obtain ⟨p, hp, hap⟩ := ha
  obtain ⟨q, hq, hbq⟩ := hb
  exact apart.2.2 p hp q hq a hap b hbq

lemma splitBy_flatten_pieces {pieces : List (List α)} (filled : ∀ p ∈ pieces, p ≠ [])
    (cut : pieces.IsChain fun p q => ∀ x ∈ p.getLast?, ∀ y ∈ q.head?, linked x y = false) :
    pieces.flatten.splitBy linked = (pieces.map (·.splitBy linked)).flatten := by
  induction pieces with
  | nil => rfl
  | cons p pieces ih =>
    rw [flatten_cons, map_cons, flatten_cons,
      ← ih (fun q hq => filled q (mem_cons_of_mem p hq)) cut.tail]
    refine splitBy_append fun x hx y hy => ?_
    cases pieces with
    | nil => simp at hy
    | cons q pieces =>
      refine (isChain_cons_cons.mp cut).1 x hx y ?_
      rwa [flatten_cons, head?_append_of_ne_nil _ (filled q (by simp))] at hy

end Cutting

end EprBench.Pulser
