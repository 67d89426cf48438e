import EprBench.Proofs.Outcome
import EprBench.Table.Commands

/-! Names of the files of one measurement. They are never the same, and they stand beside the table just when the
extension stands only at the end of its path. Main statement: the commands save outside the directory otherwise. -/
namespace EprBench

open List

lemma Text.dropFront?_eq_some {front cs rest : List Char} : dropFront? front cs = some rest ↔ cs = front ++ rest := by
  induction front generalizing cs with
  | nil => simp [dropFront?]
  | cons f front ih => cases cs <;> grind [dropFront?]

/-- The first piece ends at the first of the places where the text stands. -/
lemma Text.headD_splitOnText (s : Char) (more cs piece : List Char) (there : s :: more <:+: cs) :
    ∃ front rest, cs = front ++ s :: more ++ rest ∧ (splitOnText s more cs piece).headD [] = piece.reverse ++ front ∧
      ∀ u r, cs = u ++ s :: more ++ r → front.length ≤ u.length := by
  fun_induction splitOnText s more cs piece with
  | case1 cs piece rest found => exact ⟨[], rest, by simpa using dropFront?_eq_some.mp found, by simp, by simp⟩
  | case2 piece missing => simp at there
  | case3 piece c cs missing ih =>
    have later {u r : List Char} (same : c :: cs = u ++ s :: more ++ r) : ∃ v, u = c :: v ∧ cs = v ++ s :: more ++ r := by
      cases u with
      | nil => cases missing.symm.trans (dropFront?_eq_some.mpr same)
      | cons d v => simp_all
    obtain ⟨u, r, same⟩ := there
    obtain ⟨v, rfl, inner⟩ := later same.symm
    obtain ⟨front, rest, parted, head, first⟩ := ih ⟨v, r, inner.symm⟩
    refine ⟨c :: front, rest, by simp [parted], by simpa using head, fun u r same => ?_⟩
    obtain ⟨v, rfl, inner⟩ := later same
    simpa using first v r inner

namespace Table

/-- The stem is the text before the first of the extensions in the path. -/
lemma exists_stem {path front : String} (ends : path = front ++ extension) :
    ∃ rest, path.toList = (stem path).toList ++ extension.toList ++ rest ∧
      ∀ u r, path.toList = u ++ extension.toList ++ r → (stem path).toList.length ≤ u.length := by
  obtain ⟨first, rest, parted, head, least⟩ := Text.headD_splitOnText '.' ['c', 's', 'v'] path.toList []
    ⟨front.toList, [], by simp [ends, extension]⟩
  have cut : stem path = ((Text.splitOnText '.' ['c', 's', 'v'] path.toList []).map .ofList).headD "" := rfl
  have same : (stem path).toList = first := by
    rw [cut, ← nil_append first]
    refine Eq.trans ?_ head
    cases Text.splitOnText '.' ['c', 's', 'v'] path.toList [] <;> simp
  exact ⟨rest, same ▸ parted, same ▸ least⟩

lemma stem_eq_iff {path front : String} (ends : path = front ++ extension) :
    stem path = front ↔ ∀ u r, path.toList = u ++ extension.toList ++ r → r = [] := by
  obtain ⟨rest, parted, first⟩ := exists_stem ends
  constructor
  · intro same u r standing
    have before := first u r standing
    have size := congrArg length standing
    rw [same] at before
    simp only [ends, String.toList_append, length_append] at size
    exact length_eq_zero_iff.mp (by omega)
  · intro last
    have whole := congrArg String.toList ends
    rw [parted, last _ _ parted] at whole
    simpa [String.toList_inj] using whole

lemma slicePath_injective {path front : String} (ends : path = front ++ extension) : (slicePath path).Injective := by
  obtain ⟨rest, parted, -⟩ := exists_stem ends
  have own (i : ℕ) : path ≠ slicePath path (i + 1) := by
    intro same
    have whole := congrArg String.toList same
    rw [parted] at whole
    simp [slicePath, extension] at whole
  rintro (- | i) (- | j) same
  · rfl
  · exact absurd same (own j)
  · exact absurd same.symm (own i)
  · have digits : Nat.toDigits 10 (i + 1) = Nat.toDigits 10 (j + 1) := by
      simpa [slicePath, Decimal.natText, ← String.toList_inj] using same
    rw [← @Nat.ofDigitChars_ten_toDigits (i + 1), digits, Nat.ofDigitChars_ten_toDigits]

theorem names_stand_beside_iff {path front : String} (ends : path = front ++ extension) : (slicePath path).Injective ∧
      ((∀ i, slicePath path (i + 1) = front ++ "_" ++ Decimal.natText (i + 1) ++ extension) ∧
          (∀ ending, parameterPath path ending = front ++ ending) ↔
        ∀ u r, path.toList = u ++ extension.toList ++ r → r = []) := by
  refine ⟨slicePath_injective ends, ?_⟩
  rw [← stem_eq_iff ends]
  constructor
  · intro beside
    simpa [parameterPath] using beside.2 ""
  · intro same
    simp [slicePath, parameterPath, same]

/-- A bench where a file of a directory is picked. The extension stands in the name of the directory too. -/
def dotted : Bench where
  files := [("runs.csv.d/old.csv", "")]
  picked := some "runs.csv.d/a.csv"

def tables : Keeper := ⟨.live, .filtered, "", ""⟩

/-- The second slice is saved outside the directory, and the parameters are to be kept outside it too. -/
theorem files_leave_directory :
    (perform (Keeper.saveMeasured "runs.csv.d/a.csv" (.ints [2, 1, 1] #[1, 2]) "" "w") tables dotted).2.files.map (·.1) =
      ["runs.csv.d/old.csv", "runs.csv.d/a.csv", "runs_1.csv"] ∧
    (answer (Keeper.createWithParameters ".param") tables dotted).map Value.display =
      .ok "('runs.csv.d/a.csv', 'runs.param')" := by
  constructor <;> decide +kernel

end Table
end EprBench
