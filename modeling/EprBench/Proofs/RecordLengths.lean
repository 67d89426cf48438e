import EprBench.Proofs.Outcome
import EprBench.Proofs.Quantity
import EprBench.Scope.Keysight

/-! Record lengths of an oscilloscope. A rehearsal takes them from the table for averaged curves. Main statement: up to 3000
points other curves have them too. -/
namespace EprBench

open List

lemma nearestOf_append {x v : ℤ} {vs ws : List ℤ} (member : v ∈ vs)
    (far : ∀ w ∈ ws, (v - x).natAbs ≤ (w - x).natAbs) : nearestOf x (vs ++ ws) = nearestOf x vs := by
  have near := natAbs_nearestOf_le x member
  obtain ⟨u, rest, rfl⟩ := exists_cons_of_ne_nil (ne_nil_of_mem member)
  rw [cons_append, nearestOf, foldl_append]
  change ws.foldl _ (nearestOf x (u :: rest)) = _
  induction ws with
  | nil => rfl
  | cons w ws ih =>
    obtain ⟨here, later⟩ := forall_mem_cons.mp far
    rw [foldl_cons, if_neg (by omega)]
    exact ih later

namespace Scope.Series

/-- A rehearsal of up to 3000 points takes the length that is sent for curves without averages. -/
theorem recordLength_takeLength {w : ℤ} (low : w ≤ 3000) {o : Scope} (rehearsal : o.link.mode = .rehearsal) (b : Bench) :
    (perform (x3000.takeLength (.int w)) o b).1.2.recordLength = nearestOf w x3000.points := by
  have far (us : List ℤ) (beyond : ∀ u ∈ us, 4000 ≤ u) :
      nearestOf w ([100, 250, 500, 1000, 2000] ++ us) = nearestOf w [100, 250, 500, 1000, 2000] := by
    refine nearestOf_append (v := 2000) (by decide) fun u member => ?_
    have := beyond u member
    omega
  have taken : (perform (x3000.takeLength (.int w)) o b).1.2.recordLength = nearestOf w x3000.averagedPoints := by
    rcases o with ⟨⟨⟩⟩
    cases rehearsal
    rfl
  rw [taken]
  exact (far [4000, 8000, 16000] (by decide)).trans (far (x3000.points.drop 5) (by decide)).symm

/-- An oscilloscope on its line. -/
def scope (mode : Mode) : Scope where
  link := { mode, line := ⟨"3034T", "ethernet", 10000, 0, 0, "", 0, 8, "N", 1, "", "", ""⟩, connected := some true }
  channels := 4
  sensitivityMin := 0
  sensitivityMax := 5
  recordLength := 2000

/-- For 5000 points a rehearsal uses 4000, and 5000 are sent. -/
theorem shorter_length_is_rehearsed :
    (perform (x3000.takeLength (.int 5000)) (scope .rehearsal) {}).1.2.recordLength = 4000 ∧
      (perform (x3000.takeLength (.int 5000)) (scope .live) { replies := [.answer "NORM"] }).2.log =
        #[.query ":ACQuire:TYPE?", .write ":WAVeform:POINts 5000"] :=
  ⟨by decide +kernel, rfl⟩

end Scope.Series

end EprBench
