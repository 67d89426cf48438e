import EprBench.Proofs.Outcome
import EprBench.Proofs.Pulser.Order
import EprBench.Proofs.Pulser.Words
import EprBench.Pulser.Program

/-! Programs made part by part. As long as every part starts after the one before it has ended, the result is the
program of the whole sequence in one piece. -/
namespace EprBench.Pulser

open List Outcome

variable {xs ys p rows : List Row} {lo period : Int} {ps : List (List Row)} {s : Sequence} {is : List Instruction}

lemma lastStop_perm (same : xs.Perm ys) : lastStop xs = lastStop ys := by
  rcases eq_or_ne xs [] with rfl | some
  · rw [same.nil_eq]
  · obtain ⟨r, hr, h⟩ := exists_lastStop some
    rw [← h]
    exact (lastStop_eq (same.mem_iff.mp hr) fun s hs => h ▸ le_lastStop (same.mem_iff.mpr hs)).symm

lemma wordsBetween_perm (same : xs.Perm ys) (lo hi : Int) : wordsBetween xs lo hi = wordsBetween ys lo hi :=
  wordsBetween_congr fun t _ _ => wordAt_perm same t

namespace Sequence

def Sound (rows : List Row) : Prop := ∀ r ∈ rows, 0 < r.channel ∧ r.start ≤ r.stop

def Apart (ps : List (List Row)) : Prop := ps.Pairwise fun p q => ∀ r ∈ p, ∀ s ∈ q, r.stop < s.start

/-- The instructions of parts, each after an idle instruction that starts where the part before it ends. Times
count from tick `first`. A part without rows has no instructions. -/
def pieces (timebase first : Int) : Int → List (List Row) → List Instruction
  | _, [] => []
  | ended, [] :: ps => pieces timebase first ended ps
  | ended, p :: ps =>
    ⟨0, timebase * (ended - first), timebase * (firstStart p - ended)⟩ ::
      place timebase (firstStart p - first) (runs (wordsBetween p (firstStart p) (lastStop p))) ++
      pieces timebase first (lastStop p) ps

lemma pieces_cons (some : p ≠ []) (timebase first ended : Int) (ps : List (List Row)) :
    pieces timebase first ended (p :: ps) = ⟨0, timebase * (ended - first), timebase * (firstStart p - ended)⟩ ::
        place timebase (firstStart p - first) (runs (wordsBetween p (firstStart p) (lastStop p))) ++
        pieces timebase first (lastStop p) ps := by
  obtain ⟨r, rest, rfl⟩ := exists_cons_of_ne_nil some
  rfl

/-! ### Putting parts together -/

def made (timebase : Int) (p : List Row) : List Instruction × Int :=
  (place timebase 0 (runs (busyWords (firstStart p - leadIn) (busy p))), firstStart p - leadIn)

lemma part_eq (s : Sequence) (some : p ≠ []) (sound : Sound p) : s.part p = .ok (made s.config.timebase p) := by
  rw [part, words_eq some fun r hr => (sound r hr).2]
  show (do
    let is ← instructions s.config.timebase (wordsBetween p (firstStart p - leadIn) (lastStop p))
    pure (is, firstStart p - leadIn) : Outcome _) = _
  rw [instructions_words fun r hr => (sound r hr).1]
  rfl

lemma place_from (timebase t : Int) (some : p ≠ []) (proper : ∀ r ∈ p, r.Proper) (before : lo < firstStart p) :
    place timebase t (runs (wordsBetween p lo (lastStop p))) = ⟨0, timebase * t, timebase * (firstStart p - lo)⟩ ::
        place timebase (t + (firstStart p - lo)) (runs (wordsBetween p (firstStart p) (lastStop p))) := by
  have ticks : (((firstStart p - lo).toNat : Nat) : Int) = firstStart p - lo := by omega
  rw [runs_words some proper before]
  simp only [place, ticks]

lemma finish_append_place (timebase t : Int) (front : List Instruction) {rs : List Run} (some : rs ≠ []) :
    finish (front ++ place timebase t rs) = .ok (timebase * (t + ((expand rs).length : Int))) := by
  have last := getLast?_eq_some_getLast (place_ne_nil timebase t some)
  rw [finish, getLast?_append, last, Option.some_or]
  exact congrArg Except.ok (place_finish timebase t rs _ last)

lemma finish_part (timebase first : Int) (some : p ≠ []) (proper : ∀ r ∈ p, r.Proper) (idle : Instruction) :
    finish (idle :: place timebase (firstStart p - first) (runs (wordsBetween p (firstStart p) (lastStop p)))) =
      .ok (timebase * (lastStop p - first)) := by
  have span := firstStart_lt_lastStop some proper
  have filled : runs (wordsBetween p (firstStart p) (lastStop p)) ≠ [] := by
    intro none
    have h := expand_runs (wordsBetween p (firstStart p) (lastStop p))
    rw [none, expand_nil] at h
    have length := length_wordsBetween p (firstStart p) (lastStop p)
    rw [← h, length_nil] at length
    omega
  rw [← singleton_append, finish_append_place timebase _ [idle] filled, expand_runs, length_wordsBetween]
  congr 2
  omega

lemma append_part (timebase first ended : Int) (some : p ≠ []) (proper : ∀ r ∈ p, r.Proper)
    (before : lo < firstStart p) :
    append timebase first lo (timebase * (ended - first)) (place timebase 0 (runs (wordsBetween p lo (lastStop p)))) =
      ⟨0, timebase * (ended - first), timebase * (firstStart p - ended)⟩ ::
        place timebase (firstStart p - first) (runs (wordsBetween p (firstStart p) (lastStop p))) := by
  rw [place_from timebase 0 some proper before, append]
  congr 1
  · rw [Instruction.mk.injEq]
    exact ⟨rfl, rfl, by ring⟩
  · have moved : firstStart p - first = 0 + (firstStart p - lo) + (lo - first) := by ring
    rw [moved, ← place_shift timebase _ (lo - first)]
    apply map_congr_left
    intro i _
    rw [Instruction.mk.injEq]
    exact ⟨rfl, by ring, rfl⟩

lemma append_origin (timebase lo : Int) (rs : List Run) :
    append timebase lo lo 0 (place timebase 0 rs) = place timebase 0 rs := by
  cases rs with
  | nil => rfl
  | cons r rs =>
    rw [place, append, mul_zero]
    congr 1
    · rw [Instruction.mk.injEq]
      exact ⟨rfl, rfl, by ring⟩
    · have still : ∀ i : Instruction, { i with start := i.start + lo * timebase - lo * timebase } = i := fun i => by
        rw [add_sub_cancel_right]
      simp only [still, List.map_id']

def Resumable (ps : List (List Row)) : Prop := ∀ p ∈ ps.dropLast, busy p ≠ []

lemma resumable_cons {q : List Row} : Resumable (p :: q :: ps) ↔ busy p ≠ [] ∧ Resumable (q :: ps) := by
  simp [Resumable, dropLast_cons_of_ne_nil]

lemma resumable_iff : Resumable ps ↔ ps.Pairwise fun p _ => busy p ≠ [] := by
  induction ps with
  | nil => simp [Resumable]
  | cons p ps ih =>
    cases ps with
    | nil => simp [Resumable]
    | cons q ps =>
      rw [resumable_cons, ih, @pairwise_cons _ _ p]
      refine and_congr ?_ Iff.rfl
      exact ⟨fun filled _ _ => filled, fun filled => filled q mem_cons_self⟩

lemma busyWords_of_ne_nil (some : rows ≠ []) : busyWords lo rows = wordsBetween rows lo (lastStop rows) := if_neg some

lemma busy_lead (some : busy p ≠ []) : firstStart p - leadIn < firstStart (busy p) :=
  lt_of_lt_of_le (leadIn_before p) (firstStart_le_busy some)

lemma chain_eq_ok (timebase first ended : Int) (before : List Instruction)
    (sound : ∀ p ∈ ps, Sound p) (resume : finish before = .ok (timebase * (ended - first))) (is : List Instruction) :
    chain timebase first before (ps.map (made timebase)) = .ok is ↔
      Resumable ps ∧ is = pieces timebase first ended (ps.map busy) := by
  induction ps generalizing ended before is with
  | nil =>
    simp only [map_nil, chain, pieces, Except.ok.injEq]
    exact ⟨fun h => ⟨by simp [Resumable], h.symm⟩, fun h => h.2.symm⟩
  | cons p ps ih =>
    have sound' : ∀ q ∈ ps, Sound q := fun q hq => sound q (mem_cons_of_mem _ hq)
    rw [map_cons, map_cons, made, chain, resume, ok_bind]
    rcases eq_or_ne (busy p) [] with idle | some
    · rw [idle, busyWords, if_pos rfl, runs_nil, place, append]
      cases ps with
      | nil =>
        simp only [map_nil, chain, ok_bind, pieces]
        rw [pure_eq_ok]
        exact ⟨fun h => ⟨by simp [Resumable], h.symm⟩, fun h => h.2.symm⟩
      | cons q ps =>
        rw [resumable_cons]
        constructor
        · intro h
          exact absurd h (by simp [chain, made, finish, bind, Except.bind])
        · intro h
          exact absurd idle h.1.1
    · have proper := busy_proper fun r hr => (sound p mem_cons_self r hr).1
      simp only [busyWords_of_ne_nil some, append_part timebase first ended some proper (busy_lead some)]
      rw [pieces_cons some, bind_eq_ok]
      have later := ih (lastStop (busy p)) _ sound' (finish_part timebase first some proper
        ⟨0, timebase * (ended - first), timebase * (firstStart (busy p) - ended)⟩)
      have resumable : Resumable (p :: ps) ↔ Resumable ps := by
        cases ps with
        | nil => simp [Resumable]
        | cons q ps => simp [resumable_cons, some]
      simp only [later, pure_eq_ok, resumable]
      constructor
      · rintro ⟨tail, ⟨h, rfl⟩, rfl⟩
        exact ⟨h, rfl⟩
      · rintro ⟨h, rfl⟩
        exact ⟨_, ⟨h, rfl⟩, rfl⟩

lemma flatten_parts (s : Sequence) (rows : List Row) : (s.parts rows).flatten = Row.sortByStart rows :=
  flatten_splitBy _ _

lemma parts_perm (s : Sequence) (rows : List Row) : (s.parts rows).flatten.Perm rows :=
  s.flatten_parts rows ▸ Row.sortByStart_perm rows

lemma parts_sound (s : Sequence) (sound : Sound rows) : ∀ p ∈ s.parts rows, Sound p :=
  fun p hp r hr => sound r ((s.parts_perm rows).mem_iff.mp (List.mem_flatten.mpr ⟨p, hp, hr⟩))

lemma parts_ne_nil (s : Sequence) (some : rows ≠ []) : s.parts rows ≠ [] := by
  intro none
  have perm := s.parts_perm rows
  rw [none, flatten_nil] at perm
  exact some perm.nil_eq.symm

lemma firstStart_part (s : Sequence) (cut : s.parts rows = p :: ps) : firstStart p = firstStart rows := by
  have member : p ∈ s.parts rows := cut ▸ mem_cons_self
  obtain ⟨r, rest, rfl⟩ := exists_cons_of_ne_nil (ne_nil_of_mem_splitBy member)
  have sorted : Row.sortByStart rows = r :: (rest ++ ps.flatten) := by
    rw [← s.flatten_parts rows, cut, flatten_cons, cons_append]
  have order := Row.sortByStart_pairwise rows
  rw [sorted, pairwise_cons] at order
  have least : ∀ q ∈ rows, r.start ≤ q.start := by
    intro q hq
    rw [← (Row.sortByStart_perm rows).mem_iff, sorted] at hq
    rcases mem_cons.mp hq with rfl | hq
    · exact le_refl _
    · exact order.1 q hq
  have given : ∀ q ∈ r :: rest, q ∈ rows := fun q hq =>
    (s.parts_perm rows).mem_iff.mp (List.mem_flatten.mpr ⟨_, member, hq⟩)
  rw [firstStart_eq (given r mem_cons_self) least,
    firstStart_eq mem_cons_self fun q hq => least q (given q hq)]

lemma assemble_eq_ok (s : Sequence) (some : rows ≠ []) (sound : Sound rows) (is : List Instruction) :
    s.assemble rows = .ok is ↔ Resumable (s.parts rows) ∧
      is = pieces s.config.timebase (firstStart rows - leadIn) (firstStart rows - leadIn) ((s.parts rows).map busy) := by
  have soundParts := s.parts_sound sound
  have each : (s.parts rows).mapM s.part = .ok ((s.parts rows).map (made s.config.timebase)) :=
    mapM_ok fun p hp => s.part_eq (ne_nil_of_mem_splitBy hp) (soundParts p hp)
  rw [assemble, each, ok_bind]
  obtain ⟨p, ps, cut⟩ := exists_cons_of_ne_nil (s.parts_ne_nil some)
  have first := s.firstStart_part cut
  rw [cut, map_cons, ← first]
  -- The first part is in its place already: it is what would follow an end at its first tick.
  have origin : chain s.config.timebase (firstStart p - leadIn) [⟨0, 0, 0⟩] ((p :: ps).map (made s.config.timebase)) = .ok is ↔
      Resumable (p :: ps) ∧ is = pieces s.config.timebase (firstStart p - leadIn) (firstStart p - leadIn)
        ((p :: ps).map busy) := by
    apply chain_eq_ok _ _ _ _ (cut ▸ soundParts)
    simp [finish]
  rw [← origin, map_cons, chain]
  show _ ↔ (do
    let resume ← finish [⟨0, 0, 0⟩]
    let moved := append s.config.timebase (firstStart p - leadIn) (firstStart p - leadIn) resume
      (place s.config.timebase 0 (runs (busyWords (firstStart p - leadIn) (busy p))))
    let tail ← chain s.config.timebase (firstStart p - leadIn) moved (ps.map (made s.config.timebase))
    return moved ++ tail : Outcome _) = _
  simp only [finish, getLast?_singleton, ok_bind, add_zero, append_origin]
  rfl

/-! ### Parts that do not touch -/

lemma lastStop_append (some : ys ≠ []) (before : ∀ x ∈ xs, ∀ y ∈ ys, x.stop ≤ y.stop) :
    lastStop (xs ++ ys) = lastStop ys := by
  obtain ⟨r, hr, h⟩ := exists_lastStop some
  rw [← h]
  refine lastStop_eq (mem_append_right _ hr) fun q hq => ?_
  rcases mem_append.mp hq with hq | hq
  · exact before q hq r hr
  · exact h ▸ le_lastStop hq

lemma lastStop_lt_firstStart (some : xs ≠ []) (some' : ys ≠ [])
    (ahead : ∀ x ∈ xs, ∀ y ∈ ys, x.stop < y.start) : lastStop xs < firstStart ys := by
  obtain ⟨x, hx, stop⟩ := exists_lastStop some
  obtain ⟨y, hy, start⟩ := exists_firstStart some'
  rw [← stop, ← start]
  exact ahead x hx y hy

lemma place_words_append (timebase t : Int) (some : xs ≠ []) (proper : ∀ r ∈ xs, r.Proper)
    (gap : lastStop xs < firstStart ys) (span : firstStart ys < lastStop ys) (before : lo < firstStart xs) :
    place timebase t (runs (wordsBetween (xs ++ ys) lo (lastStop ys))) =
      place timebase t (runs (wordsBetween xs lo (lastStop xs))) ++
        place timebase (t + (lastStop xs - lo)) (runs (wordsBetween ys (lastStop xs) (lastStop ys))) := by
  have own := firstStart_lt_lastStop some proper
  have front : wordsBetween (xs ++ ys) lo (lastStop xs) = wordsBetween xs lo (lastStop xs) :=
    wordsBetween_congr fun t _ ht => by rw [wordAt_append, wordAt_before (ht.trans gap), add_zero]
  have back : wordsBetween (xs ++ ys) (lastStop xs) (lastStop ys) = wordsBetween ys (lastStop xs) (lastStop ys) :=
    wordsBetween_congr fun t ht _ => by rw [wordAt_append, wordAt_after ht, zero_add]
  rw [wordsBetween_append (xs ++ ys) (by omega : lo ≤ lastStop xs) (by omega), front, back, runs_append,
    place_append, expand_runs, length_wordsBetween]
  · congr 2
    omega
  · -- The last word of `xs` is busy, and the pause after it begins with an idle one.
    intro x hx y hy
    rw [getLast?_wordsBetween xs (by omega), Option.mem_some_iff] at hx
    rw [head?_wordsBetween ys (by omega), Option.mem_some_iff, wordAt_before gap] at hy
    have last := wordAt_last_pos some proper
    omega

lemma pieces_idle (timebase first ended : Int) (none : ps.flatten = []) : pieces timebase first ended ps = [] := by
  induction ps with
  | nil => rfl
  | cons p ps ih =>
    obtain ⟨rfl, none'⟩ := append_eq_nil_iff.mp none
    exact ih none'

lemma pieces_apart (timebase first ended : Int) (some : ps.flatten ≠ [])
    (proper : ∀ r ∈ ps.flatten, r.Proper) (apart : Apart ps) (before : ∀ r ∈ ps.flatten, ended < r.start) :
    pieces timebase first ended ps =
      place timebase (ended - first) (runs (wordsBetween ps.flatten ended (lastStop ps.flatten))) := by
  induction ps generalizing ended with
  | nil => exact absurd rfl some
  | cons p ps ih =>
    obtain ⟨ahead, apart'⟩ := pairwise_cons.mp apart
    rw [flatten_cons] at some proper before ⊢
    have properHere : ∀ r ∈ p, r.Proper := fun r hr => proper r (mem_append_left _ hr)
    have properLater : ∀ r ∈ ps.flatten, r.Proper := fun r hr => proper r (mem_append_right _ hr)
    have aheadAll : ∀ r ∈ p, ∀ q ∈ ps.flatten, r.stop < q.start := by
      intro r hr q hq
      obtain ⟨part, hpart, hq⟩ := List.mem_flatten.mp hq
      exact ahead part hpart r hr q hq
    rcases eq_or_ne p [] with rfl | here
    · exact ih ended some properLater apart' before
    obtain ⟨r, hr, start⟩ := exists_firstStart here
    have beforeHere : ended < firstStart p := start ▸ before r (mem_append_left _ hr)
    have idle := place_from timebase (ended - first) here properHere beforeHere
    rw [show ended - first + (firstStart p - ended) = firstStart p - first by ring] at idle
    rw [pieces_cons here, ← idle]
    rcases eq_or_ne ps.flatten [] with none | later
    · rw [pieces_idle _ _ _ none, none, append_nil, append_nil]
    · have gap := lastStop_lt_firstStart here later aheadAll
      rw [ih (lastStop p) later properLater apart' fun q hq => lt_of_lt_of_le gap (firstStart_le hq),
        lastStop_append later fun r hr q hq => le_of_lt ((aheadAll r hr q hq).trans (properLater q hq).lasts),
        place_words_append timebase _ here properHere gap (firstStart_lt_lastStop later properLater) beforeHere,
        show ended - first + (lastStop p - ended) = lastStop p - first by ring]

lemma apart_of_pieces {timebase first : Int} (positive : 0 < timebase) {ended : Int}
    (proper : ∀ r ∈ ps.flatten, r.Proper) (lasting : ∀ i ∈ pieces timebase first ended ps, 0 < i.duration) :
    Apart ps ∧ ∀ r ∈ ps.flatten, ended < r.start := by
  induction ps generalizing ended with
  | nil => exact ⟨List.Pairwise.nil, by simp⟩
  | cons p ps ih =>
    rw [flatten_cons] at proper ⊢
    have properLater : ∀ r ∈ ps.flatten, r.Proper := fun r hr => proper r (mem_append_right _ hr)
    rcases eq_or_ne p [] with rfl | here
    · obtain ⟨apart, after⟩ := ih properLater lasting
      exact ⟨List.Pairwise.cons (by simp) apart, after⟩
    rw [pieces_cons here] at lasting
    have gap : ended < firstStart p := by
      have idle := lasting _ mem_cons_self
      have := (mul_pos_iff_of_pos_left positive).mp idle
      omega
    obtain ⟨apart, after⟩ := ih properLater fun i hi => lasting i (mem_append_right _ hi)
    have span := firstStart_lt_lastStop here fun r hr => proper r (mem_append_left _ hr)
    refine ⟨List.Pairwise.cons ?_ apart, ?_⟩
    · intro q hq r hr s hs
      exact lt_of_le_of_lt (le_lastStop hr) (after s (List.mem_flatten.mpr ⟨q, hq, hs⟩))
    · intro r hr
      rcases mem_append.mp hr with hr | hr
      · exact lt_of_lt_of_le gap (firstStart_le hr)
      · exact (gap.trans span).trans (after r hr)

/-! ### One program in both modes -/

def inMode (s : Sequence) (mode : Mode) : Sequence := { s with mode := mode }

def whole (s : Sequence) (period : Int) (rows : List Row) : Outcome (Option (List Instruction)) := do
  let (is, _) ← s.part rows
  s.close period is

lemma flatten_busy_parts (s : Sequence) (rows : List Row) : (((s.parts rows).map busy).flatten).Perm (busy rows) := by
  have filtered : ((s.parts rows).map busy).flatten = busy (s.parts rows).flatten := filter_flatten.symm
  rw [filtered]
  exact (s.parts_perm rows).filter _

lemma assemble_apart (s : Sequence) (some : rows ≠ []) (sound : Sound rows)
    (apart : Apart ((s.parts rows).map busy)) (is : List Instruction) :
    s.assemble rows = .ok is ↔ Resumable (s.parts rows) ∧ is = (made s.config.timebase rows).1 := by
  have perm := s.flatten_busy_parts rows
  rw [s.assemble_eq_ok some sound]
  suffices pieces s.config.timebase (firstStart rows - leadIn) (firstStart rows - leadIn) ((s.parts rows).map busy) =
      (made s.config.timebase rows).1 by rw [this]
  rcases eq_or_ne (busy rows) [] with idle | lasting
  · rw [made, idle, pieces_idle]
    · rfl
    · exact (idle ▸ perm).eq_nil
  · have proper : ∀ r ∈ ((s.parts rows).map busy).flatten, r.Proper := fun r hr =>
      busy_proper (fun q hq => (sound q hq).1) r (perm.mem_iff.mp hr)
    have before : ∀ r ∈ ((s.parts rows).map busy).flatten, firstStart rows - leadIn < r.start := fun r hr =>
      lt_of_lt_of_le (leadIn_before rows) (firstStart_le (mem_busy.mp (perm.mem_iff.mp hr)).1)
    rw [pieces_apart _ _ _ (fun none => lasting (none ▸ perm).nil_eq.symm) proper apart before, sub_self,
      wordsBetween_perm perm, lastStop_perm perm, made, busyWords_of_ne_nil lasting]

lemma whole_eq (s : Sequence) (period : Int) (some : rows ≠ []) (sound : Sound rows) :
    s.whole period rows = s.close period (made s.config.timebase rows).1 := by
  rw [whole, s.part_eq some sound]
  rfl

lemma program_eq_whole (s : Sequence) (period : Int) (some : rows ≠ []) (sound : Sound rows)
    (apart : Apart ((s.parts rows).map busy)) (resumable : Resumable (s.parts rows)) :
    s.program period rows = s.whole period rows := by
  have filled : rows.isEmpty = false := by simpa using some
  rw [program, filled, (s.assemble_apart some sound apart _).mpr ⟨resumable, rfl⟩, s.whole_eq period some sound]
  rfl

lemma pause_of_live (s : Sequence) (positive : 0 < s.config.timebase) {a b : Row} (order : a.start ≤ b.start)
    (pause : (s.inMode .live).isPause a b = true) : (s.inMode .rehearsal).isPause a b = true := by
  have longer : b.start - a.start > s.config.maxLength := of_decide_eq_true pause
  have nanoseconds : (b.start - a.start) * s.config.timebase > s.config.maxLength := by nlinarith
  exact decide_eq_true nanoseconds

lemma apart_live (s : Sequence) (positive : 0 < s.config.timebase)
    (apart : Apart (((s.inMode .rehearsal).parts rows).map busy)) :
    Apart (((s.inMode .live).parts rows).map busy) := by
  -- Rows that do not last may lie anywhere, so the relation across a cut leaves them out.
  have rephrase : ∀ ps : List (List Row), Apart (ps.map busy) ↔
      ps.Pairwise fun p q => ∀ r ∈ p, ∀ t ∈ q, r.start < r.stop → t.start < t.stop → r.stop < t.start := by
    intro ps
    rw [Apart, pairwise_map]
    constructor
    · exact fun h => h.imp fun hpq r hr t ht lasts lasts' =>
        hpq r (mem_busy.mpr ⟨hr, lasts⟩) t (mem_busy.mpr ⟨ht, lasts'⟩)
    · exact fun h => h.imp fun hpq r hr t ht =>
        hpq r (mem_busy.mp hr).1 t (mem_busy.mp ht).1 (mem_busy.mp hr).2 (mem_busy.mp ht).2
  rw [rephrase] at apart ⊢
  refine pairwise_splitBy fun xs ys split x hx y hy pause => ?_
  refine acrossCuts_of_pairwise apart xs ys split x hx y hy ?_
  have sorted := Row.sortByStart_pairwise rows
  rw [split, pairwise_append] at sorted
  have order := sorted.2.2 x (List.mem_of_getLast? hx) y (List.mem_of_head? hy)
  rw [Bool.not_eq_false'] at pause ⊢
  exact s.pause_of_live positive order pause

lemma parts_rehearsal (s : Sequence) (positive : 0 < s.config.timebase) (rows : List Row) :
    (s.inMode .rehearsal).parts rows =
      (((s.inMode .live).parts rows).map (·.splitBy fun a b => !(s.inMode .rehearsal).isPause a b)).flatten := by
  have sorted := Row.sortByStart_pairwise rows
  rw [← (s.inMode .live).flatten_parts rows, pairwise_flatten] at sorted
  conv_lhs => rw [parts, ← (s.inMode .live).flatten_parts rows]
  refine splitBy_flatten_pieces (fun p hp => ne_nil_of_mem_splitBy hp) ?_
  have cut := isChain_iff_getElem.mp
    (isChain_getLast_head_splitBy (fun a b => !(s.inMode .live).isPause a b) (Row.sortByStart rows))
  refine isChain_iff_getElem.mpr fun i inside x hx y hy => ?_
  have order := pairwise_iff_getElem.mp sorted.2 i (i + 1) (by omega) inside (by omega) x (List.mem_of_getLast? hx) y
    (List.mem_of_head? hy)
  obtain ⟨hp, hq, pause⟩ := cut i inside
  obtain rfl := Option.some.inj ((getLast?_eq_some_getLast hp).symm.trans hx)
  obtain rfl := Option.some.inj ((head?_eq_some_head hq).symm.trans hy)
  rw [Bool.not_eq_false'] at pause ⊢
  exact s.pause_of_live positive order pause

lemma resumable_live (s : Sequence) (positive : 0 < s.config.timebase)
    (resumable : Resumable ((s.inMode .rehearsal).parts rows)) : Resumable ((s.inMode .live).parts rows) := by
  rw [resumable_iff, s.parts_rehearsal positive, pairwise_flatten, pairwise_map] at resumable
  rw [resumable_iff]
  refine resumable.2.imp_of_mem fun {p q} hp hq filled => ?_
  obtain ⟨p', hp'⟩ := exists_mem_of_ne_nil _ (splitBy_ne_nil.mpr (ne_nil_of_mem_splitBy hp))
  obtain ⟨q', hq'⟩ := exists_mem_of_ne_nil _ (splitBy_ne_nil.mpr (ne_nil_of_mem_splitBy hq))
  obtain ⟨r, hr⟩ := exists_mem_of_ne_nil _ (filled p' hp' q' hq')
  have member : r ∈ p := by
    rw [← flatten_splitBy _ p]
    exact List.mem_flatten.mpr ⟨p', hp', (mem_busy.mp hr).1⟩
  exact ne_nil_of_mem (mem_busy.mpr ⟨member, (mem_busy.mp hr).2⟩)

lemma close_eq_some {front : List Instruction} (done : s.close period front = .ok (some is)) :
    ∃ t, finish front = .ok t ∧ s.config.minLength + 4 < period - t ∧ is = front ++ [⟨0, t, period - t⟩] := by
  obtain ⟨t, ended, done⟩ := bind_eq_ok.mp done
  simp only at done
  split at done
  · exact absurd done throw_bind_ne_ok
  split at done
  · rename_i room
    rw [pure_eq_ok, Option.some.injEq] at done
    exact ⟨t, ended, room, done.symm⟩
  · rw [pure_eq_ok] at done
    exact absurd done (by simp)

lemma program_eq_ok {answer : Option (List Instruction)} (done : s.program period rows = .ok answer) :
    rows ≠ [] ∧ ∃ front, s.assemble rows = .ok front ∧ s.close period front = .ok answer := by
  rw [program] at done
  split at done
  · exact absurd done throw_bind_ne_ok
  · rename_i filled
    refine ⟨by simpa using filled, bind_eq_ok.mp done⟩

lemma apart_of_rehearsed (positive : 0 < s.config.timebase)
    (sound : Sound rows) (done : s.program period rows = .ok (some is))
    (lasting : ∀ i ∈ is, 0 < i.duration) : Apart ((s.parts rows).map busy) := by
  obtain ⟨some, front, assembled, closed⟩ := program_eq_ok done
  obtain ⟨t, -, -, rfl⟩ := close_eq_some closed
  obtain ⟨-, rfl⟩ := (s.assemble_eq_ok some sound front).mp assembled
  refine (apart_of_pieces positive (fun r hr => ?_) fun i hi => lasting i (mem_append_left _ hi)).1
  exact busy_proper (fun q hq => (sound q hq).1) r ((s.flatten_busy_parts rows).mem_iff.mp hr)

lemma program_live_of_rehearsed (s : Sequence) (positive : 0 < s.config.timebase) (sound : Sound rows)
    (rehearsed : (s.inMode .rehearsal).program period rows = .ok (some is)) (lasting : ∀ i ∈ is, 0 < i.duration) :
    (s.inMode .live).program period rows = .ok (some is) := by
  have apart := apart_of_rehearsed (s := s.inMode .rehearsal) positive sound rehearsed lasting
  obtain ⟨some, front, assembled, closed⟩ := program_eq_ok rehearsed
  obtain ⟨resumable, rfl⟩ := (assemble_apart _ some sound apart front).mp assembled
  rw [program_eq_whole _ period some sound (s.apart_live positive apart) (s.resumable_live positive resumable),
    whole_eq _ period some sound]
  exact closed

end Sequence
end EprBench.Pulser
