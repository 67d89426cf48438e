import Mathlib
import EprBench.Decimal.Layout
import EprBench.Decimal.Parsing
import EprBench.Text.Pieces

/-! Texts that are cut up again as they were put together: pieces between separators, lines, and whole numbers. -/
namespace EprBench

open List

variable {c : Char} {cs : List Char} {n : Nat}

namespace Text

lemma splitAt_eq_splitOn (sep : Char) (cs : List Char) : splitAt sep cs = cs.splitOn sep := by
  induction cs with
  | nil => rfl
  | cons c cs ih =>
    rw [splitAt, ih, List.splitOn, List.splitOn, splitOnP_cons_eq_if_modifyHead]
    simp only [beq_iff_eq]
    split
    · rfl
    · rcases pieces : cs.splitOnP (· == sep) with _ | ⟨piece, more⟩
      · exact absurd pieces (splitOnP_ne_nil _ cs)
      · rfl

lemma mem_of_mem_intercalate {sep : List Char} {ls : List (List Char)} (member : c ∈ sep.intercalate ls) :
    c ∈ sep ∨ ∃ l ∈ ls, c ∈ l := by
  induction ls with
  | nil => simp at member
  | cons l ls ih =>
    cases ls with
    | nil =>
      rw [intercalate_singleton] at member
      exact .inr ⟨l, mem_cons_self, member⟩
    | cons l' ls =>
      rw [intercalate_cons_cons, mem_append, mem_append] at member
      rcases member with (here | sep) | later
      · exact .inr ⟨l, mem_cons_self, here⟩
      · exact .inl sep
      · exact (ih later).imp_right fun ⟨l, hl, hc⟩ => ⟨l, mem_cons_of_mem _ hl, hc⟩

lemma plainLineEnds_eq_self (plain : '\r' ∉ cs) : plainLineEnds cs = cs := by
  fun_induction plainLineEnds cs with
  | case1 => rfl
  | case2 rest ih => simp at plain
  | case3 c rest _ ih =>
    rw [mem_cons, not_or] at plain
    rw [if_neg (Ne.symm plain.1), ih plain.2]

lemma linesFrom_append {line rest : List Char} (within : ∀ c ∈ line, isLineEnd c = false) (before : List Char) :
    linesFrom before (line ++ '\n' :: rest) = (before.reverse ++ line) :: linesFrom [] rest := by
  induction line generalizing before with
  | nil =>
    rw [nil_append, append_nil, linesFrom]
    · rfl
    · simp
  | cons c line ih =>
    obtain ⟨here, later⟩ := forall_mem_cons.mp within
    have plain : c ≠ '\r' := by
      rintro rfl
      exact absurd here (by decide)
    rw [cons_append, linesFrom, here]
    · simpa using ih later (c :: before)
    · rintro _ rfl
      exact absurd rfl plain

lemma lines_flatten {ls : List (List Char)} (within : ∀ l ∈ ls, ∀ c ∈ l, isLineEnd c = false) :
    lines (ls.flatMap (· ++ ['\n'])) = ls := by
  induction ls with
  | nil => rfl
  | cons l ls ih =>
    obtain ⟨here, later⟩ := forall_mem_cons.mp within
    rw [flatMap_cons, append_assoc, lines, singleton_append, linesFrom_append here]
    exact congrArg (l :: ·) (ih later)

end Text

namespace Decimal

/-! ### Whole numbers -/

lemma takeDigits_of_isDigit (digits : ∀ c ∈ cs, c.isDigit = true) :
    takeDigits cs = (cs.map fun c => c.toNat - '0'.toNat, []) := by
  fun_induction takeDigits cs with
  | case1 => rfl
  | case2 => simp_all
  | case3 => simp_all
  | case4 c d more _ _ _ ih => simp at digits
  | case5 => simp_all
  | case6 c rest _ _ _ ih =>
    have later := ih fun c hc => digits c (mem_cons_of_mem _ hc)
    exact congrArg (fun r : List Nat × List Char => ((c.toNat - '0'.toNat) :: r.1, r.2)) later

lemma dropWhile_of_forall {α : Type} {p : α → Bool} {xs : List α} (none : ∀ x ∈ xs, p x = false) :
    xs.dropWhile p = xs := by
  cases xs with
  | nil => rfl
  | cons x xs => rw [dropWhile_cons, none x mem_cons_self, if_neg (by decide)]

lemma takeSign_of_isDigit (digits : ∀ c ∈ cs, c.isDigit = true) : takeSign cs = (false, cs) := by
  unfold takeSign
  split
  · exact absurd (digits _ mem_cons_self) (by decide)
  · exact absurd (digits _ mem_cons_self) (by decide)
  · rfl

lemma toNat_of_isDigit (digit : c.isDigit = true) : 48 ≤ c.toNat ∧ c.toNat ≤ 57 := Char.isDigit_iff_toNat.mp digit

lemma digit_of_mem_natText (member : c ∈ (natText n).toList) : c.isDigit = true := by
  rw [natText, String.toList_ofList] at member
  exact Nat.isDigit_of_mem_toDigits (by decide) (by decide) member

lemma isMargin_of_isDigit (digit : c.isDigit = true) : isMargin c = false := by
  have range := toNat_of_isDigit digit
  have other : c ≠ ' ' := by
    rintro rfl
    exact absurd digit (by decide)
  simp only [isMargin, Bool.or_eq_false_iff, Bool.and_eq_false_iff, decide_eq_false_iff_not]
  exact ⟨other, Or.inr (by omega)⟩

lemma dropMargins_of_forall (none : ∀ c ∈ cs, isMargin c = false) : dropMargins cs = cs := by
  rw [dropMargins, dropWhile_of_forall none, dropWhile_of_forall fun c hc => none c (mem_reverse.mp hc),
    reverse_reverse]

lemma dropMargins_of_isDigit (digits : ∀ c ∈ cs, c.isDigit = true) : dropMargins cs = cs :=
  dropMargins_of_forall fun c hc => isMargin_of_isDigit (digits c hc)

lemma plainChar_of_isDigit (digit : c.isDigit = true) : plainChar c = c := by
  have range := toNat_of_isDigit digit
  exact if_pos (by omega)

lemma parseInt?_natText_of_short (short : n < 10 ^ digitLimit) : parseInt? (natText n) = some (n : Int) := by
  have digits : ∀ c ∈ Nat.toDigits 10 n, c.isDigit = true := fun c => Nat.isDigit_of_mem_toDigits (by decide) (by decide)
  have plain : (Nat.toDigits 10 n).map plainChar = Nat.toDigits 10 n := by
    exact (map_congr_left fun c hc => plainChar_of_isDigit (digits c hc)).trans (map_id _)
  have length : (Nat.toDigits 10 n).length ≤ digitLimit :=
    (Nat.length_toDigits_le_iff (by decide) (by decide)).mpr short
  have value : digitsValue ((Nat.toDigits 10 n).map fun c => c.toNat - '0'.toNat) = n := by
    rw [digitsValue, foldl_map, ← Nat.ofDigitChars_eq_foldl, Nat.ofDigitChars_ten_toDigits]
  rw [parseInt?, natText, String.toList_ofList, plain, parseIntChars?, dropMargins_of_isDigit digits,
    takeSign_of_isDigit digits]
  simp only [takeDigits_of_isDigit digits]
  rcases made : Nat.toDigits 10 n with _ | ⟨c, cs⟩
  · exact absurd made Nat.toDigits_ne_nil
  · rw [made] at length value
    have read : ¬ ((c :: cs).map fun c => c.toNat - '0'.toNat).length > digitLimit := by
      rw [length_map]
      omega
    exact (if_neg read).trans (congrArg (fun m : Nat => some (m : Int)) value)

lemma parseInt?_natText (short : n < 2 ^ 63) : parseInt? (natText n) = some (n : Int) := by
  refine parseInt?_natText_of_short (lt_of_lt_of_le (b := 10 ^ 19) (by omega) ?_)
  exact Nat.pow_le_pow_right (by decide) (by decide)

lemma mem_intText {n : Int} (member : c ∈ (intText n).toList) : c.isDigit = true ∨ c = '-' := by
  cases n with
  | ofNat n => exact .inl (digit_of_mem_natText member)
  | negSucc n =>
    rw [intText, String.toList_append, mem_append] at member
    rcases member with sign | digit
    · exact .inr (mem_singleton.mp sign)
    · exact .inl (digit_of_mem_natText digit)

/-! ### Times in nanoseconds -/

def isWritten (c : Char) : Bool := c.isDigit || ['-', '+', '.', 'e', 'n', 'a', 'i', 'f'].contains c

lemma all_of_subset {p : Char → Bool} {ds : List Char} (all : ds.all p = true) (part : cs ⊆ ds) : cs.all p = true :=
  all_eq_true.mpr fun c member => all_eq_true.mp all c (part member)

lemma isWritten_of_isDigit (digit : c.isDigit = true) : isWritten c = true := by
  rw [isWritten, digit, Bool.true_or]

lemma isWritten_intText (n : Int) : (intText n).toList.all isWritten = true := by
  refine all_eq_true.mpr fun c member => ?_
  rcases mem_intText member with digit | rfl
  · exact isWritten_of_isDigit digit
  · decide

lemma isWritten_toDigits (n : Nat) : (Nat.toDigits 10 n).all isWritten = true :=
  all_eq_true.mpr fun _ member => isWritten_of_isDigit (Nat.isDigit_of_mem_toDigits (by decide) (by decide) member)

lemma isWritten_zeros (n : Nat) : (List.replicate n '0').all isWritten = true := by
  rw [all_replicate]
  split <;> rfl

lemma isWritten_exponentText (e : Int) : (exponentText e).all isWritten = true := by
  have letter : isWritten 'e' = true := by decide
  have sign : isWritten (if e < 0 then '-' else '+') = true := by split <;> decide
  simp only [exponentText, paddedDigits, all_cons, all_append, letter, sign, isWritten_zeros, isWritten_toDigits,
    Bool.and_self]

lemma isWritten_layoutDigits (form : Style) {ds : List Char} (digits : ds.all isWritten = true) (point : Int) :
    (layoutDigits form ds point).all isWritten = true := by
  have dot : isWritten '.' = true := by decide
  have zero : isWritten '0' = true := by decide
  have taken (n : ℕ) := all_of_subset digits (take_subset n ds)
  have left (n : ℕ) := all_of_subset digits (drop_subset n ds)
  unfold layoutDigits
  dsimp only
  split
  · split
    · simp only [all_cons, all_append, dot, zero, isWritten_zeros, digits, Bool.and_self]
    · split <;> simp only [all_cons, all_append, all_nil, dot, zero, isWritten_zeros, digits, taken,
        left, Bool.and_self]
  · split
    · rfl
    · simpa [isWritten_exponentText] using digits
    · simpa [isWritten_exponentText, dot] using digits

lemma isWritten_floatText (x : Float) : (floatText x).toList.all isWritten = true := by
  have signs (negative : Bool) : (if negative then ['-'] else [] : List Char).all isWritten = true := by cases negative <;> rfl
  unfold floatText
  split
  · rfl
  · split <;> rfl
  · dsimp only
    split
    · rw [String.toList_ofList, all_append, signs]
      rfl
    · have trimmed (n : ℕ) : trimZeros (Nat.toDigits 10 n) ⊆ Nat.toDigits 10 n := fun c member => by
        rw [trimZeros, mem_reverse] at member
        exact mem_reverse.mp ((dropWhile_suffix _).subset member)
      rw [String.toList_ofList, all_append, signs, Bool.true_and]
      exact isWritten_layoutDigits _ (all_of_subset (isWritten_toDigits _) (trimmed _)) _

lemma blank_notMem_of_isWritten (written : cs.all isWritten = true) : ' ' ∉ cs := fun member =>
  absurd (all_eq_true.mp written _ member) (by decide)

lemma blank_notMem_intText (n : Int) : ' ' ∉ (intText n).toList := blank_notMem_of_isWritten (isWritten_intText n)

lemma blank_notMem_floatText (x : Float) : ' ' ∉ (floatText x).toList := blank_notMem_of_isWritten (isWritten_floatText x)

lemma pieces_pair {s front back : String} {sep : Char} (both : s.toList = front.toList ++ sep :: back.toList)
    (first : sep ∉ front.toList) (second : sep ∉ back.toList) : s.pieces sep = [front, back] := by
  have apart {s : String} (free : sep ∉ s.toList) : ∀ c ∈ s.toList, (c == sep) = false := fun c member =>
    beq_eq_false_iff_ne.mpr (ne_of_mem_of_not_mem member free)
  rw [String.pieces, Text.splitAt_eq_splitOn, both, List.splitOn,
    splitOnP_append_cons_of_forall_mem (apart first) sep (by simp), splitOnP_eq_singleton (apart second)]
  simp

lemma pieces_amount {number unit : String} (whole : ' ' ∉ number.toList) (plain : ' ' ∉ unit.toList) :
    (number ++ " " ++ unit).pieces ' ' = [number, unit] := pieces_pair (by simp) whole plain

lemma pieces_nanoseconds {number : String} (whole : ' ' ∉ number.toList) :
    (number ++ " ns").pieces ' ' = [number, "ns"] := by
  rw [show " ns" = " " ++ "ns" from rfl, ← String.append_assoc, pieces_amount whole (by decide)]

end Decimal

end EprBench
