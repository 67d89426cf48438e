import EprBench.Proofs.Outcome
import EprBench.Pulser.Word

/-! Runs of equal words and the instructions that play them. The edges of a row of words are where its runs begin and end. -/
namespace EprBench.Pulser

open List Outcome

structure Run where
  word : Int
  ticks : Nat
  deriving Repr, DecidableEq

def Run.push (w : Int) : List Run → List Run
  | r :: rest => if r.word = w then ⟨w, r.ticks + 1⟩ :: rest else ⟨w, 1⟩ :: r :: rest
  | [] => [⟨w, 1⟩]

def runs (ws : List Int) : List Run := ws.foldr Run.push []

def expand (rs : List Run) : List Int := rs.flatMap fun r => List.replicate r.ticks r.word

def withoutIdleEnd (ws : List Int) : List Int := (ws.reverse.dropWhile (· == 0)).reverse

def place (timebase : Int) : Int → List Run → List Instruction
  | _, [] => []
  | t, r :: rest => ⟨r.word, timebase * t, timebase * r.ticks⟩ :: place timebase (t + r.ticks) rest

@[simp] lemma runs_nil : runs [] = [] := rfl

lemma runs_cons (w : Int) (ws : List Int) : runs (w :: ws) = Run.push w (runs ws) := rfl

@[simp] lemma expand_nil : expand [] = [] := rfl

@[simp] lemma expand_cons (r : Run) (rs : List Run) :
    expand (r :: rs) = List.replicate r.ticks r.word ++ expand rs := by
  simp [expand]

lemma exists_of_mem_place {timebase t : Int} {rs : List Run} {i : Instruction} (member : i ∈ place timebase t rs) :
    ∃ xs r ys, rs = xs ++ r :: ys ∧
      i = ⟨r.word, timebase * (t + ((expand xs).length : Int)), timebase * r.ticks⟩ := by
  induction rs generalizing t with
  | nil => simp [place] at member
  | cons r rs ih =>
    rcases mem_cons.mp member with rfl | later
    · exact ⟨[], r, rs, rfl, by simp⟩
    · obtain ⟨xs, s, ys, rfl, rfl⟩ := ih later
      refine ⟨r :: xs, s, ys, rfl, ?_⟩
      rw [expand_cons, length_append, length_replicate, Nat.cast_add, add_assoc]

lemma expand_push (w : Int) (rs : List Run) : expand (Run.push w rs) = w :: expand rs := by
  cases rs with
  | nil => simp [Run.push]
  | cons r rest =>
    by_cases h : r.word = w
    · simp [Run.push, h, replicate_succ]
    · simp [Run.push, h]

lemma expand_runs (ws : List Int) : expand (runs ws) = ws := by
  induction ws with
  | nil => rfl
  | cons w ws ih => rw [runs_cons, expand_push, ih]

lemma runs_head (w : Int) (ws : List Int) : ∃ n rest, runs (w :: ws) = ⟨w, n + 1⟩ :: rest := by
  rw [runs_cons]
  cases runs ws with
  | nil => exact ⟨0, [], rfl⟩
  | cons r rest =>
    by_cases h : r.word = w
    · exact ⟨r.ticks, rest, by simp [Run.push, h]⟩
    · exact ⟨0, r :: rest, by simp [Run.push, h]⟩

lemma runs_ticks_pos (ws : List Int) : ∀ r ∈ runs ws, 0 < r.ticks := by
  induction ws with
  | nil => simp
  | cons w ws ih =>
    intro r hr
    rw [runs_cons] at hr
    cases hrs : runs ws with
    | nil => simp_all [Run.push]
    | cons s rest =>
      rw [hrs] at hr ih
      by_cases h : s.word = w
      · simp only [Run.push, h, if_true, mem_cons] at hr
        rcases hr with rfl | hr
        · exact Nat.succ_pos _
        · exact ih r (mem_cons_of_mem _ hr)
      · simp only [Run.push, h, if_false, mem_cons] at hr
        rcases hr with rfl | hr
        · exact Nat.one_pos
        · exact ih r (by simpa using hr)

lemma push_append (w : Int) (r : Run) (rs ss : List Run) :
    Run.push w (r :: rs ++ ss) = Run.push w (r :: rs) ++ ss := by
  by_cases h : r.word = w <;> simp [Run.push, h]

lemma runs_append (xs ys : List Int) (differ : ∀ x ∈ xs.getLast?, ∀ y ∈ ys.head?, x ≠ y) :
    runs (xs ++ ys) = runs xs ++ runs ys := by
  induction xs with
  | nil => rfl
  | cons x xs ih =>
    rw [cons_append, runs_cons, runs_cons]
    cases xs with
    | nil =>
      cases ys with
      | nil => rfl
      | cons y ys =>
        have hxy : x ≠ y := differ x (by simp) y (by simp)
        obtain ⟨n, rest, hr⟩ := runs_head y ys
        simp [hr, Run.push, Ne.symm hxy]
    | cons x' xs =>
      have hr := ih (fun a ha b hb => differ a (by simpa using ha) b hb)
      obtain ⟨n, rest, hh⟩ := runs_head x' xs
      rw [hr, hh, push_append]

lemma runs_replicate (w : Int) (n : Nat) : runs (List.replicate (n + 1) w) = [⟨w, n + 1⟩] := by
  induction n with
  | zero => rfl
  | succ n ih =>
    rw [replicate_succ, runs_cons, ih]
    simp [Run.push]

/-! ### Instructions in their places -/

lemma place_append (timebase t : Int) (rs ss : List Run) : place timebase t (rs ++ ss) =
      place timebase t rs ++ place timebase (t + ((expand rs).length : Int)) ss := by
  induction rs generalizing t with
  | nil => simp [place]
  | cons r rs ih =>
    simp only [cons_append, place, ih, expand_cons, length_append, length_replicate,
      Nat.cast_add, add_assoc]

lemma place_ne_nil (timebase t : Int) {rs : List Run} (h : rs ≠ []) : place timebase t rs ≠ [] := by
  cases rs with
  | nil => exact absurd rfl h
  | cons r rs => simp [place]

lemma place_shift (timebase t d : Int) (rs : List Run) :
    (place timebase t rs).map (fun i => { i with start := i.start + timebase * d }) =
      place timebase (t + d) rs := by
  induction rs generalizing t with
  | nil => rfl
  | cons r rs ih =>
    have start : timebase * t + timebase * d = timebase * (t + d) := by ring
    have next : t + (r.ticks : Int) + d = t + d + (r.ticks : Int) := by ring
    simp only [place, map_cons, ih, start, next]

lemma place_finish (timebase t : Int) (rs : List Run) : ∀ i ∈ (place timebase t rs).getLast?,
      i.start + i.duration = timebase * (t + ((expand rs).length : Int)) := by
  induction rs generalizing t with
  | nil => simp [place]
  | cons r rs ih =>
    intro i hi
    cases rs with
    | nil =>
      simp only [place, getLast?_singleton, Option.mem_some_iff] at hi
      subst hi
      simp only [expand_cons, expand_nil, append_nil, length_replicate]
      ring
    | cons s rs =>
      have h := ih (t + (r.ticks : Int)) i (by simpa [place] using hi)
      rw [h, expand_cons r, length_append, length_replicate]
      push_cast
      ring

/-- The word that instructions put out at a tick, if any. -/
def outputAt (timebase : Int) (is : List Instruction) (tick : Int) : Option Int :=
  (is.find? fun i => i.start ≤ timebase * tick && timebase * tick < i.start + i.duration).map (·.word)

lemma outputAt_place {timebase : Int} (positive : 0 < timebase) (t : Int) (rs : List Run) (k : Nat) :
    outputAt timebase (place timebase t rs) (t + k) = (expand rs)[k]? := by
  induction rs generalizing t k with
  | nil => simp [outputAt, place]
  | cons r rs ih =>
    have start : timebase * t ≤ timebase * (t + k) := by nlinarith
    have inside : timebase * (t + k) < timebase * t + timebase * r.ticks ↔ k < r.ticks := by
      rw [← mul_add, mul_lt_mul_iff_right₀ positive]
      omega
    by_cases h : k < r.ticks
    · have here : (List.replicate r.ticks r.word ++ expand rs)[k]? = some r.word := by
        rw [getElem?_append_left (by simpa using h), getElem?_replicate, if_pos h]
      simp [outputAt, place, start, inside, h, here]
    · have later : t + (k : Int) = t + r.ticks + ((k - r.ticks : Nat) : Int) := by omega
      have tail := ih (t + r.ticks) (k - r.ticks)
      rw [← later] at tail
      simp only [outputAt] at tail
      simp only [outputAt, place, find?_cons, start, inside, h, decide_true, decide_false,
        Bool.and_false, expand_cons, tail]
      rw [getElem?_append_right (by simpa using h), length_replicate]

lemma place_pairwise {timebase : Int} (positive : 0 ≤ timebase) (t : Int) (rs : List Run) :
    (∀ i ∈ place timebase t rs, timebase * t ≤ i.start) ∧
      (place timebase t rs).Pairwise fun i j => i.start + i.duration ≤ j.start := by
  induction rs generalizing t with
  | nil => simp [place]
  | cons r rs ih =>
    obtain ⟨after, apart⟩ := ih (t + r.ticks)
    have grow : timebase * t ≤ timebase * (t + r.ticks) := by
      have : 0 ≤ timebase * (r.ticks : Int) := mul_nonneg positive (Int.natCast_nonneg _)
      nlinarith
    refine ⟨?_, ?_⟩
    · intro i hi
      rcases mem_cons.mp hi with rfl | hi
      · exact le_refl _
      · exact le_trans grow (after i hi)
    · refine List.Pairwise.cons ?_ apart
      intro i hi
      have h := after i hi
      simp only
      nlinarith

lemma place_word {t : Int} {rs : List Run} {i : Instruction} (member : i ∈ place 1 t rs) {u : Int}
    (lower : i.start ≤ u) (upper : u < i.start + i.duration) : t ≤ u ∧ (expand rs)[(u - t).toNat]? = some i.word := by
  induction rs generalizing t with
  | nil => simp [place] at member
  | cons r rs ih =>
    rcases mem_cons.mp member with rfl | member
    · simp only [one_mul] at lower upper
      refine ⟨lower, ?_⟩
      rw [expand_cons, getElem?_append_left (by simp; omega), getElem?_replicate,
        if_pos (by omega)]
    · obtain ⟨before, word⟩ := ih member
      refine ⟨by omega, ?_⟩
      have index : (u - t).toNat = r.ticks + (u - (t + r.ticks)).toNat := by omega
      rw [expand_cons, getElem?_append_right (by simp; omega), length_replicate, index,
        Nat.add_sub_cancel_left, word]

lemma place_covers (t : Int) (rs : List Run) (k : Nat) (w : Int) (word : (expand rs)[k]? = some w) :
    ∃ i ∈ place 1 t rs, i.word = w ∧ i.start ≤ t + k ∧ t + k < i.start + i.duration := by
  have found := outputAt_place one_pos t rs k
  rw [word] at found
  obtain ⟨i, hi, hw⟩ := Option.map_eq_some_iff.mp found
  have inside := find?_some hi
  simp only [one_mul, Bool.and_eq_true, decide_eq_true_eq] at inside
  exact ⟨i, mem_of_find?_eq_some hi, hw, inside.1, inside.2⟩

/-! ### Idle ticks at the end -/

lemma withoutIdleEnd_append (ws : List Int) : ∃ n, ws = withoutIdleEnd ws ++ List.replicate n 0 := by
  refine ⟨(ws.reverse.takeWhile (· == 0)).length, ?_⟩
  have zeros : ws.reverse.takeWhile (· == 0) =
      List.replicate (ws.reverse.takeWhile (· == 0)).length 0 := by
    rw [eq_replicate_iff]
    refine ⟨rfl, fun w hw => ?_⟩
    simpa using mem_takeWhile_imp hw
  have whole := takeWhile_append_dropWhile (p := (· == 0)) (l := ws.reverse)
  have back := congrArg List.reverse whole
  rw [reverse_append, reverse_reverse] at back
  rw [withoutIdleEnd, ← reverse_replicate, ← zeros]
  exact back.symm

lemma withoutIdleEnd_idle (ws : List Int) (n : Nat) (ends : ∀ w ∈ ws.getLast?, w ≠ 0) :
    withoutIdleEnd (ws ++ List.replicate n 0) = ws := by
  rw [withoutIdleEnd, reverse_append, reverse_replicate, dropWhile_append_of_pos (by simp)]
  rcases eq_nil_or_concat ws with rfl | ⟨front, last, rfl⟩
  · rfl
  · have h : last ≠ 0 := ends last (by simp)
    simp [h]

/-! ### Edges of runs -/

lemma runs_differ (ws : List Int) : (runs ws).IsChain fun r s => r.word ≠ s.word := by
  induction ws with
  | nil => exact .nil
  | cons w ws ih =>
    rw [runs_cons]
    cases hrs : runs ws with
    | nil => exact .singleton _
    | cons r rest =>
      rw [hrs] at ih
      by_cases same : r.word = w
      · subst same
        rw [Run.push, if_pos rfl]
        cases rest with
        | nil => exact .singleton _
        | cons s rest =>
          rw [isChain_cons_cons] at ih ⊢
          exact ih
      · rw [Run.push, if_neg same, isChain_cons_cons]
        exact ⟨Ne.symm same, ih⟩

lemma expand_append (rs ss : List Run) : expand (rs ++ ss) = expand rs ++ expand ss := flatMap_append

lemma head?_expand {rs : List Run} (lasting : ∀ r ∈ rs, 0 < r.ticks) : (expand rs).head? = rs.head?.map Run.word := by
  cases rs with
  | nil => rfl
  | cons r rs =>
    obtain ⟨n, ticks⟩ := Nat.exists_eq_succ_of_ne_zero (lasting r mem_cons_self).ne'
    rw [expand_cons, ticks]
    rfl

lemma getLast?_expand {rs : List Run} (lasting : ∀ r ∈ rs, 0 < r.ticks) :
    (expand rs).getLast? = rs.getLast?.map Run.word := by
  rcases eq_nil_or_concat rs with rfl | ⟨front, r, rfl⟩
  · rfl
  · have ticks : r.ticks ≠ 0 := (lasting r (by simp)).ne'
    simp [expand_append, getLast?_append, getLast?_replicate, ticks]

/-- The edges of a row of words that stands at a place, behind some word. -/
def edgesFrom (place : Nat) (before : Int) (ws : List Int) : List Nat :=
  let steps := List.zipWith (fun a b => (b - a).natAbs) (before :: ws ++ [0]) (ws ++ [0])
  ((steps.zipIdx place).filter (·.1 != 0)).map (·.2)

def firstOf (ws : List Int) (place : Nat × Nat) : Outcome (Int × Nat × Nat) :=
  match (ws.take place.2).drop place.1 with
  | [] => .error .outOfRange
  | w :: _ => .ok (w, place)

lemma stretches_eq (ws : List Int) : stretches ws = ((0 :: edges ws).zip (edges ws)).mapM (firstOf ws) := by
  have paired (first : Nat) (places : List Nat) (f : Nat × Nat → List Int) (n : Nat) :
      (((first :: places).zip (places ++ [n])).map f).zip ((first :: places).zip places) =
        ((first :: places).zip places).map fun p => (f p, p) := by
    induction places generalizing first with
    | nil => simp
    | cons a places ih => simpa using ih a
  rw [stretches, slices, paired, mapM_map]
  refine congrArg (List.mapM · _) (funext fun p => ?_)
  rw [Function.comp_apply, firstOf]
  cases (ws.take p.2).drop p.1 <;> rfl

lemma edgesFrom_cons (place : Nat) (before w : Int) (ws : List Int) :
    edgesFrom place before (w :: ws) =
      if before = w then edgesFrom (place + 1) w ws else place :: edgesFrom (place + 1) w ws := by
  by_cases same : before = w
  · simp [edgesFrom, same]
  · have step : w - before ≠ 0 := sub_ne_zero.mpr (Ne.symm same)
    simp [edgesFrom, same, step]

lemma edgesFrom_replicate (place : Nat) (w : Int) (n : Nat) (ws : List Int) :
    edgesFrom place w (List.replicate n w ++ ws) = edgesFrom (place + n) w ws := by
  induction n generalizing place with
  | zero => rfl
  | succ n ih => rw [replicate_succ, cons_append, edgesFrom_cons, if_pos rfl, ih, Nat.add_assoc, Nat.add_comm 1]

lemma edgesFrom_idle (place : Nat) (w : Int) (n : Nat) :
    edgesFrom place w (List.replicate n 0) = if w = 0 then [] else [place] := by
  have idle (place m : Nat) : edgesFrom place 0 (List.replicate m 0) = [] := by
    have all := edgesFrom_replicate place 0 m []
    rw [append_nil] at all
    rw [all]
    rfl
  cases n with
  | zero =>
    by_cases zero : w = 0
    · simp [edgesFrom, zero]
    · simp [edgesFrom, zero]
  | succ n =>
    rw [replicate_succ, edgesFrom_cons, idle]

/-- Words with the places where their runs begin and end. -/
def spans : Nat → List Run → List (Int × Nat × Nat)
  | _, [] => []
  | t, r :: rest => (r.word, t, t + r.ticks) :: spans (t + r.ticks) rest

lemma firstOf_run {r : Run} (lasting : 0 < r.ticks) (front rest : List Int) :
    firstOf (front ++ (List.replicate r.ticks r.word ++ rest)) (front.length, front.length + r.ticks) =
      .ok (r.word, front.length, front.length + r.ticks) := by
  obtain ⟨n, ticks⟩ := Nat.exists_eq_succ_of_ne_zero lasting.ne'
  have cut : ((front ++ (List.replicate r.ticks r.word ++ rest)).take (front.length + r.ticks)).drop front.length =
      List.replicate r.ticks r.word := by
    rw [take_length_add_append, drop_left, List.take_left' (length_replicate)]
  rw [firstOf, cut, ticks]
  rfl

lemma mapM_firstOf {r : Run} {rs : List Run} (lasting : ∀ s ∈ r :: rs, 0 < s.ticks)
    (differ : (r :: rs).IsChain fun r s => r.word ≠ s.word) (busy : ∀ s ∈ (r :: rs).getLast?, s.word ≠ 0)
    (front : List Int) (idle : Nat) :
    let places := edgesFrom (front.length + r.ticks) r.word (expand rs ++ List.replicate idle 0)
    ((front.length :: places).zip places).mapM (firstOf (front ++ (expand (r :: rs) ++ List.replicate idle 0))) =
      .ok (spans front.length (r :: rs)) := by
  have here := firstOf_run (lasting r mem_cons_self) front
  induction rs generalizing r front with
  | nil =>
    have busy : r.word ≠ 0 := busy r (by simp)
    rw [expand_cons, append_assoc, expand_nil, nil_append, edgesFrom_idle, if_neg busy]
    dsimp only
    rw [zip_cons_cons, zip_nil_right, mapM_cons, here]
    rfl
  | cons s rs ih =>
    obtain ⟨other, differ⟩ := isChain_cons_cons.mp differ
    obtain ⟨-, lasting⟩ := forall_mem_cons.mp lasting
    obtain ⟨m, more⟩ := Nat.exists_eq_succ_of_ne_zero (lasting s (by simp)).ne'
    have later := ih lasting differ (by simpa using busy) (front ++ List.replicate r.ticks r.word)
      (firstOf_run (lasting s mem_cons_self) _)
    have next : edgesFrom (front.length + r.ticks) r.word (expand (s :: rs) ++ List.replicate idle 0) =
        (front.length + r.ticks) ::
          edgesFrom (front.length + r.ticks + s.ticks) s.word (expand rs ++ List.replicate idle 0) := by
      rw [expand_cons, append_assoc, more, replicate_succ, cons_append, edgesFrom_cons, if_neg other,
        edgesFrom_replicate, Nat.add_assoc, Nat.add_comm 1]
    simp only [length_append, length_replicate, append_assoc] at later
    dsimp only
    rw [next, zip_cons_cons, mapM_cons, expand_cons r, append_assoc, here, later]
    rfl

lemma spans_instructions (timebase : Int) (t : Nat) (rs : List Run) :
    (spans t rs).map (fun (w, a, b) => (⟨w, timebase * a, timebase * (b - a)⟩ : Instruction)) = place timebase t rs := by
  induction rs generalizing t with
  | nil => rfl
  | cons r rs ih => simp [spans, place, ih]

lemma stretches_cons (w : Int) (ws : List Int) : stretches (w :: ws) =
    if w = 0 then .ok (spans 0 (runs (withoutIdleEnd (w :: ws)))) else .error .outOfRange := by
  have all : edges (w :: ws) = edgesFrom 0 0 (w :: ws) := rfl
  rw [stretches_eq, all]
  split
  · rename_i idle
    subst idle
    obtain ⟨n, whole⟩ := withoutIdleEnd_append (0 :: ws)
    have last := rdropWhile_last_not (· == 0) (0 :: ws)
    change ∀ some : withoutIdleEnd (0 :: ws) ≠ [], ¬ ((withoutIdleEnd (0 :: ws)).getLast some == 0) = true at last
    generalize withoutIdleEnd (0 :: ws) = us at whole last
    cases us with
    | nil =>
      rw [whole, nil_append, edgesFrom_idle]
      rfl
    | cons u us =>
      obtain ⟨rfl, -⟩ := List.cons.inj (whole : 0 :: ws = u :: (us ++ _))
      obtain ⟨k, rs, cut⟩ := runs_head 0 us
      have lasting := runs_ticks_pos (0 :: us)
      have differ := runs_differ (0 :: us)
      have ends := getLast?_expand lasting
      rw [expand_runs] at ends
      have words := expand_runs (0 :: us)
      rw [cut] at lasting differ ends words ⊢
      have busy : ∀ s ∈ ((⟨0, k + 1⟩ : Run) :: rs).getLast?, s.word ≠ 0 := by
        intro s member
        rw [Option.mem_def.mp member, getLast?_eq_some_getLast (cons_ne_nil 0 us)] at ends
        have nonzero := last (cons_ne_nil 0 us)
        rw [Option.some.inj ends] at nonzero
        simpa using nonzero
      have told := mapM_firstOf lasting differ busy [] n
      rw [← edgesFrom_replicate, ← append_assoc, ← expand_cons ⟨0, k + 1⟩, words, ← whole] at told
      simpa using told
  · rename_i busy
    rw [edgesFrom_cons, if_neg (Ne.symm busy)]
    rfl

lemma instructions_eq (timebase : Int) (ws : List Int) : instructions timebase ws =
    if ws.head?.any (· != 0) then .error .outOfRange else .ok (place timebase 0 (runs (withoutIdleEnd ws))) := by
  cases ws with
  | nil => rfl
  | cons w ws =>
    rw [instructions, stretches_cons]
    by_cases idle : w = 0
    · subst idle
      exact congrArg Except.ok (spans_instructions timebase 0 _)
    · simp [idle]

lemma activeRows_eq_ok {ws : List Int} {rows : List Row} (made : activeRows ws = .ok rows) :
    rows = ((place 1 0 (runs (withoutIdleEnd ws))).filter (·.word != 0)).map fun i =>
      ⟨i.word, i.start, i.start + i.duration⟩ := by
  obtain ⟨ss, done, made⟩ := bind_eq_ok.mp made
  have told := instructions_eq 1 ws
  rw [instructions, done, ok_bind] at told
  rw [← pure_eq_ok.mp made]
  split at told
  · cases told
  · rw [← Except.ok.inj told, filter_map, map_map]
    refine map_congr_left fun s _ => ?_
    simp

end EprBench.Pulser
