import EprBench.Proofs.Pulser.Defended
import EprBench.Proofs.Pulser.Parts

/-! The programs of prepared rows. A rehearsal and a live session cut at different pauses, but this cannot be seen in
the programs. -/
namespace EprBench.Pulser

open List

namespace Sequence

variable {s : Sequence} {period : Int} {rows : List Row} {is : List Instruction}

lemma program_eq_made (positive : 0 < s.config.timebase)
    (bits : ∀ r ∈ rows, 0 < r.channel) (lasting : ∀ r ∈ rows, r.start < r.stop)
    (done : s.program period rows = .ok (some is)) (durations : ∀ i ∈ is, 0 < i.duration) :
    rows ≠ [] ∧ Apart ((s.parts rows).map busy) ∧ s.close period (made s.config.timebase rows).1 = .ok (some is) := by
  have sound : Sound rows := fun r hr => ⟨bits r hr, le_of_lt (lasting r hr)⟩
  have apart := apart_of_rehearsed positive sound done durations
  obtain ⟨filled, front, assembled, closed⟩ := program_eq_ok done
  obtain ⟨-, rfl⟩ := (assemble_apart s filled sound apart front).mp assembled
  exact ⟨filled, apart, closed⟩

lemma resumable_of_lasting (lasting : ∀ r ∈ rows, r.start < r.stop) : Resumable (s.parts rows) := by
  intro part member
  have whole : part ∈ s.parts rows := mem_of_mem_dropLast member
  obtain ⟨r, hr⟩ := exists_mem_of_ne_nil _ (ne_nil_of_mem_splitBy whole)
  have here : r ∈ rows := (s.parts_perm rows).mem_iff.mp (List.mem_flatten.mpr ⟨part, whole, hr⟩)
  exact ne_nil_of_mem (mem_busy.mpr ⟨hr, lasting r here⟩)

lemma outputAt_append (timebase : Int) (xs ys : List Instruction) (k : Int) :
    outputAt timebase (xs ++ ys) k = (outputAt timebase xs k).or (outputAt timebase ys k) := by
  rw [outputAt, find?_append, Option.map_or]
  rfl

lemma made_eq_place (timebase : Int) (filled : rows ≠ []) (proper : ∀ r ∈ rows, r.Proper) : (made timebase rows).1 =
      place timebase 0 (runs (wordsBetween rows (firstStart rows - leadIn) (lastStop rows))) := by
  rw [made, busy_eq_self proper, busyWords_of_ne_nil filled]

lemma finish_made (timebase : Int) (filled : rows ≠ []) (proper : ∀ r ∈ rows, r.Proper) :
    finish (made timebase rows).1 = .ok (timebase * (lastStop rows - (firstStart rows - leadIn))) := by
  have span : firstStart rows - leadIn < lastStop rows :=
    (leadIn_before rows).trans (firstStart_lt_lastStop filled proper)
  have some : runs (wordsBetween rows (firstStart rows - leadIn) (lastStop rows)) ≠ [] := by
    intro none
    have length := congrArg List.length (expand_runs (wordsBetween rows (firstStart rows - leadIn) (lastStop rows)))
    rw [none, length_wordsBetween, expand_nil, length_nil] at length
    omega
  have ended := finish_append_place timebase 0 [] some
  rw [nil_append, expand_runs, length_wordsBetween, Int.toNat_of_nonneg (by omega), zero_add] at ended
  rw [made_eq_place timebase filled proper, ended]

lemma program_output (positive : 0 < s.config.timebase)
    (bits : ∀ r ∈ rows, 0 < r.channel) (lasting : ∀ r ∈ rows, r.start < r.stop)
    (done : s.program period rows = .ok (some is)) (durations : ∀ i ∈ is, 0 < i.duration) :
    s.config.timebase * (lastStop rows - (firstStart rows - leadIn)) < period ∧ ∀ k : Nat, s.config.timebase * k < period →
      outputAt s.config.timebase is k = some (wordAt rows (firstStart rows - leadIn + k)) := by
  obtain ⟨filled, -, closed⟩ := program_eq_made positive bits lasting done durations
  obtain ⟨t, ended, -, rfl⟩ := close_eq_some closed
  have proper : ∀ r ∈ rows, r.Proper := fun r hr => ⟨bits r hr, lasting r hr⟩
  have idle : 0 < period - t := durations ⟨0, t, period - t⟩ (by simp)
  obtain rfl := Except.ok.inj ((finish_made _ filled proper).symm.trans ended)
  refine ⟨by omega, fun k inside => ?_⟩
  have words := outputAt_place positive 0 (runs (wordsBetween rows (firstStart rows - leadIn) (lastStop rows))) k
  rw [zero_add, expand_runs, getElem?_wordsBetween] at words
  rw [outputAt_append, made_eq_place _ filled proper, words]
  split
  · rfl
  · -- The idle instruction at the end lasts from the last end to the end of the period.
    rename_i late
    have past : lastStop rows ≤ firstStart rows - leadIn + k := by omega
    have reached : s.config.timebase * (lastStop rows - (firstStart rows - leadIn)) ≤ s.config.timebase * k :=
      mul_le_mul_of_nonneg_left (by omega) (le_of_lt positive)
    rw [wordAt_after past, Option.none_or, outputAt]
    simp [reached, inside]

end Sequence

namespace Device

variable {p : Device} {ps : List Properties} {b : Bench} {rows : List Row} {period : Int} {is : List Instruction}

/-- A program of lasting instructions that a rehearsal makes from prepared rows is also the program of a live session,
and that of all rows put into words and instructions in one piece. -/
theorem cuts_leave_no_trace (positive : 0 < p.config.timebase) (prepared : answer (prepare ps) p b = .ok rows)
    (lasting : ∀ r ∈ rows, r.start < r.stop)
    (rehearsed : (p.sequence.inMode .rehearsal).program period rows = .ok (some is))
    (durations : ∀ i ∈ is, 0 < i.duration) : (p.sequence.inMode .live).program period rows = .ok (some is) ∧
      ∃ ws lo front t, words rows = .ok (ws, lo) ∧ instructions p.config.timebase ws = .ok front ∧
        Sequence.finish front = .ok t ∧ is = front ++ [⟨0, t, period - t⟩] := by
  have bits := (prepare_wired prepared).positive
  have sound : Sequence.Sound rows := fun r hr => ⟨bits r hr, le_of_lt (lasting r hr)⟩
  obtain ⟨filled, apart, closed⟩ := Sequence.program_eq_made positive bits lasting rehearsed durations
  refine ⟨?_, ?_⟩
  · rw [Sequence.program_eq_whole _ period filled sound (p.sequence.apart_live positive apart)
      (Sequence.resumable_of_lasting lasting), Sequence.whole_eq _ period filled sound]
    exact closed
  · obtain ⟨t, ended, -, rfl⟩ := Sequence.close_eq_some closed
    exact ⟨_, _, _, t, words_eq filled fun r hr => (sound r hr).2, instructions_words bits _, ended, rfl⟩

/-- A pause that a rehearsal cuts out and a live session does not. -/
def pausing : Device := holding [("P0", "MW", "100 ns", "20 ns"), ("P1", "LASER", "3000 ns", "40 ns")]

theorem cut_of_a_pause : let rows : List Row := [⟨8, 175, 185⟩, ⟨256, 1625, 1645⟩, ⟨2, 90, 120⟩, ⟨4, 90, 175⟩]
    let is : List Instruction := [⟨0, 0, 50⟩, ⟨6, 50, 60⟩, ⟨4, 110, 110⟩, ⟨8, 220, 20⟩, ⟨0, 240, 2880⟩, ⟨256, 3120, 40⟩,
      ⟨0, 3160, 6840⟩]
    answer (prepare pausing.properties) pausing {} = .ok rows ∧ (∀ r ∈ rows, r.start < r.stop) ∧
      ((pausing.sequence.inMode .rehearsal).parts rows).length = 2 ∧
      ((pausing.sequence.inMode .live).parts rows).length = 1 ∧
      (pausing.sequence.inMode .rehearsal).program 10000 rows = .ok (some is) ∧
      (pausing.sequence.inMode .live).program 10000 rows = .ok (some is) := by
  intro rows is
  have prepared : answer (prepare pausing.properties) pausing {} = .ok rows := by decide +kernel
  have lasting : ∀ r ∈ rows, r.start < r.stop := by decide
  have rehearsed : (pausing.sequence.inMode .rehearsal).program 10000 rows = .ok (some is) := by decide +kernel
  have durations : ∀ i ∈ is, 0 < i.duration := by decide
  exact ⟨prepared, lasting, by decide +kernel, by decide +kernel, rehearsed,
    (cuts_leave_no_trace (by decide) prepared lasting rehearsed durations).1⟩

end Device
end EprBench.Pulser
