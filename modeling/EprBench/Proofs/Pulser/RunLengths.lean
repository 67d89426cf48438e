import EprBench.Proofs.Pulser.Factory
import EprBench.Proofs.Pulser.Joining
import EprBench.Pulser.Commands

/-! Words as runs. The instructions for a row of words are a run-length code of it. -/
namespace EprBench.Pulser

open List

variable {rs : List Run} {timebase : Int} {ws : List Int} {r s : Row} {k : Nat}

/-! ### Rows of words as arrays -/

@[simp] lemma ofValue_arrayOf (ws : List Int) : Words.ofValue (arrayOf ws) = .ok ⟨ws, .int⟩ := rfl

/-! ### Edges of runs -/

lemma place_edges (lasting : ∀ r ∈ rs, 0 < r.ticks) (differ : rs.IsChain fun r s => r.word ≠ s.word)
    {i : Instruction} (member : i ∈ place 1 0 rs) (k : Nat) :
    ((k : Int) + 1 = i.start → (expand rs)[k]? ≠ some i.word) ∧
      ((k : Int) = i.start + i.duration → (expand rs)[k]? ≠ some i.word) := by
  obtain ⟨xs, r, ys, rfl, rfl⟩ := exists_of_mem_place member
  obtain ⟨-, tail, left⟩ := isChain_append.mp differ
  have right : ∀ s ∈ ys.head?, r.word ≠ s.word := by
    cases ys with
    | nil => simp
    | cons s ys => simpa using (isChain_cons_cons.mp tail).1
  have before := getLast?_expand fun s hs => lasting s (mem_append_left _ hs)
  have after : (expand ys).head? = ys.head?.map Run.word := head?_expand fun s hs => lasting s (by simp [hs])
  simp only [one_mul, zero_add]
  rw [expand_append, expand_cons]
  constructor
  · intro here word
    rw [getElem?_append_left (by omega), show k = (expand xs).length - 1 by omega, ← List.getLast?_eq_getElem?,
      before] at word
    obtain ⟨s, last, same⟩ := Option.map_eq_some_iff.mp word
    exact left s last r (by simp) same
  · intro here word
    rw [getElem?_append_right (by omega), getElem?_append_right (by rw [length_replicate]; omega),
      length_replicate, show k - (expand xs).length - r.ticks = 0 by omega, ← List.head?_eq_getElem?, after] at word
    obtain ⟨s, first, same⟩ := Option.map_eq_some_iff.mp word
    exact right s first same.symm

/-! ### Run-length codes -/

def played (timebase : Int) (is : List Instruction) : List Int :=
  is.flatMap fun i => List.replicate (i.duration / timebase).toNat i.word

/-- Instructions, one after the other from time zero on, that play a row of words up to its last word other than zero, with
as few instructions as possible. -/
structure RunLengthCode (timebase : Int) (ws : List Int) (is : List Instruction) : Prop where
  lossless : played timebase is = ws.rdropWhile (· == 0)
  begins : ∀ i ∈ is.head?, i.start = 0
  follows : is.IsChain fun i j => j.start = i.start + i.duration
  lasts : ∀ i ∈ is, 0 < i.duration ∧ timebase ∣ i.duration
  differ : is.IsChain fun i j => i.word ≠ j.word

lemma played_place (positive : 0 < timebase) (t : Int) (rs : List Run) :
    played timebase (place timebase t rs) = expand rs := by
  induction rs generalizing t with
  | nil => rfl
  | cons r rs ih =>
    have ticks : (timebase * (r.ticks : Int) / timebase).toNat = r.ticks := by
      rw [Int.mul_ediv_cancel_left _ positive.ne', Int.toNat_natCast]
    rw [place, expand_cons, ← ih (t + r.ticks), played, flatMap_cons, ticks]
    rfl

lemma place_follows (timebase t : Int) (rs : List Run) :
    (place timebase t rs).IsChain fun i j => j.start = i.start + i.duration := by
  induction rs generalizing t with
  | nil => exact .nil
  | cons r rs ih =>
    have later := ih (t + r.ticks)
    cases rs with
    | nil => exact .singleton _
    | cons s rs =>
      rw [place] at later ⊢
      rw [place, isChain_cons_cons]
      exact ⟨mul_add timebase t r.ticks, later⟩

lemma place_words (timebase t : Int) (rs : List Run) :
    (place timebase t rs).map Instruction.word = rs.map Run.word := by
  induction rs generalizing t with
  | nil => rfl
  | cons r rs ih => rw [place, map_cons, map_cons, ih]

lemma runLengthCode_place (positive : 0 < timebase) (ws : List Int) :
    RunLengthCode timebase ws (place timebase 0 (runs (withoutIdleEnd ws))) := by
  refine ⟨?_, ?_, place_follows timebase 0 _, ?_, ?_⟩
  · rw [played_place positive, expand_runs]
    rfl
  · cases runs (withoutIdleEnd ws) with
    | nil => simp [place]
    | cons r rs => simp [place]
  · intro i member
    obtain ⟨xs, r, ys, split, rfl⟩ := exists_of_mem_place member
    have ticks : 0 < r.ticks := runs_ticks_pos (withoutIdleEnd ws) r (by simp [split])
    exact ⟨mul_pos positive (by exact_mod_cast ticks), Int.dvd_mul_right _ _⟩
  · have differ := runs_differ (withoutIdleEnd ws)
    rw [← isChain_map (R := (· ≠ ·)) Run.word, ← place_words timebase 0, isChain_map] at differ
    exact differ

/-! ### Maximal runs -/

/-- A stretch of one word other than zero that is as long as it can be. -/
structure MaximalRun (ws : List Int) (r : Row) : Prop where
  busy : r.channel ≠ 0
  nonneg : 0 ≤ r.start
  lasts : r.start < r.stop
  holds : ∀ k : Nat, r.active k = true → ws[k]? = some r.channel
  before : ∀ k : Nat, (k : Int) + 1 = r.start → ws[k]? ≠ some r.channel
  after : ∀ k : Nat, (k : Int) = r.stop → ws[k]? ≠ some r.channel

lemma MaximalRun.start_le (maximal : MaximalRun ws r) (other : MaximalRun ws s)
    (same : r.channel = s.channel) (on : r.active k = true) (on' : s.active k = true) : s.start ≤ r.start := by
  by_contra later
  obtain ⟨lower, upper⟩ := Row.active_iff.mp on
  obtain ⟨lower', upper'⟩ := Row.active_iff.mp on'
  have nonneg := maximal.nonneg
  have edge : ((s.start - 1).toNat : Int) + 1 = s.start := by omega
  refine other.before _ edge ?_
  rw [← same]
  exact maximal.holds _ (Row.active_iff.mpr ⟨by omega, by omega⟩)

lemma MaximalRun.stop_le (maximal : MaximalRun ws r) (other : MaximalRun ws s)
    (same : r.channel = s.channel) (on : r.active k = true) (on' : s.active k = true) : r.stop ≤ s.stop := by
  by_contra later
  obtain ⟨lower, upper⟩ := Row.active_iff.mp on
  obtain ⟨lower', upper'⟩ := Row.active_iff.mp on'
  have edge : (s.stop.toNat : Int) = s.stop := by omega
  refine other.after _ edge ?_
  rw [← same]
  exact maximal.holds _ (Row.active_iff.mpr ⟨by omega, by omega⟩)

lemma MaximalRun.eq_of_active (maximal : MaximalRun ws r) (other : MaximalRun ws s)
    (on : r.active k = true) (on' : s.active k = true) : r = s := by
  have same : r.channel = s.channel := Option.some.inj ((maximal.holds k on).symm.trans (other.holds k on'))
  have starts := le_antisymm (other.start_le maximal same.symm on' on) (maximal.start_le other same on on')
  have stops := le_antisymm (maximal.stop_le other same on on') (other.stop_le maximal same.symm on' on)
  rcases r with ⟨channel, start, stop⟩
  rcases s with ⟨channel', start', stop'⟩
  simp_all

lemma mem_activeRows {rows : List Row} (made : activeRows ws = .ok rows) : r ∈ rows ↔ MaximalRun ws r := by
  obtain ⟨holds, covers, -⟩ := activeRows_spec made
  have maximal : ∀ r ∈ rows, MaximalRun ws r := by
    intro r member
    obtain ⟨busy, lasts, nonneg, words⟩ := holds r member
    obtain ⟨i, kept, rfl⟩ := mem_map.mp (activeRows_eq_ok made ▸ member)
    have edges := place_edges (runs_ticks_pos _) (runs_differ _) (mem_of_mem_filter kept)
    simp only [expand_runs, ne_eq, getElem?_withoutIdleEnd busy] at edges
    exact ⟨busy, nonneg, lasts, words, fun k => (edges k).1, fun k => (edges k).2⟩
  constructor
  · exact maximal r
  · intro run
    have first : r.active (r.start.toNat : Int) = true := by
      have := run.nonneg
      have := run.lasts
      exact Row.active_iff.mpr ⟨by omega, by omega⟩
    obtain ⟨s, member, -, on⟩ := covers r.start.toNat r.channel (run.holds _ first) run.busy
    rwa [run.eq_of_active (maximal s member) first on]

/-! ### What a script is told -/

lemma activeList_eq (p : Device) (ws : List Int) : p.activeList (arrayOf ws) =
    if p.config.autoDefense = "True" then (do return .list ((← activeRows ws).map (·.cells .int))) else .ok .nothing := by
  rw [Device.activeList, Device.whenDefended]
  simp only [beq_iff_eq, ofValue_arrayOf, Outcome.ok_bind]

/-- A row of words that begins with an idle tick comes out as a run-length code. Its stretches other than zero come out as
exactly its maximal runs, in their order; while protection is not on nothing comes out. -/
theorem words_come_out_as_runs (p : Device) (positive : 0 < p.config.timebase) (ws : List Int) :
    (∃ is : List Instruction, p.instructionList (arrayOf (0 :: ws)) = .ok (.list (is.map (·.cells .int))) ∧
      RunLengthCode p.config.timebase (0 :: ws) is) ∧ (p.config.autoDefense = "True" → ∃ rows : List Row,
      p.activeList (arrayOf (0 :: ws)) = .ok (.list (rows.map (·.cells .int))) ∧
      (∀ r, r ∈ rows ↔ MaximalRun (0 :: ws) r) ∧ rows.Pairwise fun a b => a.stop ≤ b.start) ∧
    (p.config.autoDefense ≠ "True" → p.activeList (arrayOf (0 :: ws)) = .ok .nothing) := by
  have told : instructions p.config.timebase (0 :: ws) = .ok (place p.config.timebase 0 (runs (withoutIdleEnd (0 :: ws)))) :=
    instructions_eq _ _
  refine ⟨⟨_, ?_, runLengthCode_place positive (0 :: ws)⟩, ?_, ?_⟩
  · rw [Device.instructionList, ofValue_arrayOf, Outcome.ok_bind]
    dsimp only
    rw [told]
    rfl
  · intro defended
    obtain ⟨rows, made⟩ : ∃ rows, activeRows (0 :: ws) = .ok rows := by
      rw [activeRows, stretches_cons, if_pos rfl]
      exact ⟨_, rfl⟩
    refine ⟨rows, ?_, fun r => mem_activeRows made, (activeRows_spec made).2.2⟩
    rw [activeList_eq, if_pos defended, made]
    rfl
  · intro undefended
    rw [activeList_eq, if_neg undefended]

theorem pulse_words_come_out_as_runs : 0 < (Device.make .factory .live).config.timebase ∧ ∃ rows : List Row,
    (Device.make .factory .live).activeList (arrayOf [0, 8, 8, 9, 0, 0, 1, 0]) = .ok (.list (rows.map (·.cells .int))) ∧
      ∀ r, r ∈ rows ↔ MaximalRun [0, 8, 8, 9, 0, 0, 1, 0] r := by
  have positive : 0 < (Device.make .factory .live).config.timebase := by decide
  obtain ⟨rows, told, runs, -⟩ := (words_come_out_as_runs _ positive [8, 8, 9, 0, 0, 1, 0]).2.1 rfl
  exact ⟨positive, rows, told, runs⟩

/-- While protection is not on, a maximal run is not told. -/
theorem maximal_run_untold :
    (Device.make { Config.factory with autoDefense := "False" } .rehearsal).activeList (arrayOf [0, 1, 1, 0]) = .ok .nothing ∧
      MaximalRun [0, 1, 1, 0] ⟨1, 1, 3⟩ := by
  have made : activeRows [0, 1, 1, 0] = .ok [⟨1, 1, 3⟩] := rfl
  exact ⟨rfl, (mem_activeRows made).mp mem_cons_self⟩

end EprBench.Pulser
