import EprBench.Proofs.Text

/-! Numbers as they are written, without any rounding. -/
namespace EprBench.Decimal

open List

variable {cs rest : List Char} {c : Char}

def Numeral.exact (x : Numeral) : ℚ := (if x.negative then -1 else 1) * x.digits * 10 ^ x.exponent

/-! ### Whole numbers -/

lemma takeNumeral_of_takeDigits {ds : List Nat} (read : takeDigits (takeSign cs).2 = (ds, []))
    (some : ds ≠ []) : takeNumeral cs = Option.some (⟨(takeSign cs).1, digitsValue ds, 0⟩, []) := by
  rw [takeNumeral]
  simp only [read]
  cases ds with
  | nil => exact absurd rfl some
  | cons d ds => rfl

lemma Numeral.exact_whole (negative : Bool) (n : Nat) :
    Numeral.exact ⟨negative, n, 0⟩ = ((if negative then -(n : Int) else n : Int) : ℚ) := by
  cases negative <;> simp [Numeral.exact]

lemma parseNumeral?_of_parseInt? {s : String} {n : Int} (read : parseInt? s = some n) :
    ∃ x, parseNumeral? s = some x ∧ x.exact = n := by
  rw [parseInt?, parseIntChars?] at read
  split at read
  · simp at read
  · rename_i ds some digits
    split at read
    · simp at read
    · obtain rfl := Option.some.inj read
      rw [parseNumeral?, takeNumeral_of_takeDigits digits some]
      exact ⟨_, rfl, Numeral.exact_whole _ _⟩
  · simp at read

lemma takeDigits_natText (n : Nat) : ∃ ds, takeDigits (natText n).toList = (ds, []) ∧ ds ≠ [] ∧ digitsValue ds = n := by
  rw [natText, String.toList_ofList]
  refine ⟨_, takeDigits_of_isDigit fun c => Nat.isDigit_of_mem_toDigits (by decide) (by decide), ?_, ?_⟩
  · simp [Nat.toDigits_ne_nil]
  · rw [digitsValue, foldl_map, ← Nat.ofDigitChars_eq_foldl, Nat.ofDigitChars_ten_toDigits]

lemma parseNumeral?_intText (n : Int) : ∃ x, parseNumeral? (intText n) = some x ∧ x.exact = n := by
  have plain : ∀ m : Nat, (natText m).toList.map plainChar = (natText m).toList := fun m =>
    (map_congr_left fun c member => plainChar_of_isDigit (digit_of_mem_natText member)).trans (map_id _)
  have dark : ∀ m : Nat, ∀ c ∈ (natText m).toList, isMargin c = false :=
    fun m c member => isMargin_of_isDigit (digit_of_mem_natText member)
  cases n with
  | ofNat m =>
    obtain ⟨ds, digits, some, value⟩ := takeDigits_natText m
    have sign : takeSign (natText m).toList = (false, (natText m).toList) :=
      takeSign_of_isDigit fun c => digit_of_mem_natText
    rw [intText, parseNumeral?, plain, dropMargins_of_forall (dark m),
      takeNumeral_of_takeDigits (by rw [sign]; exact digits) some, sign]
    exact ⟨_, rfl, by rw [Numeral.exact_whole, value]; simp⟩
  | negSucc m =>
    obtain ⟨ds, digits, some, value⟩ := takeDigits_natText (m + 1)
    have written : (intText (.negSucc m)).toList.map plainChar = '-' :: (natText (m + 1)).toList := by
      rw [intText, String.toList_append, map_append, plain]
      rfl
    have sign : takeSign ('-' :: (natText (m + 1)).toList) = (true, (natText (m + 1)).toList) := rfl
    rw [parseNumeral?, written, dropMargins_of_forall (forall_mem_cons.mpr ⟨by decide, dark (m + 1)⟩),
      takeNumeral_of_takeDigits (by rw [sign]; exact digits) some, sign]
    exact ⟨_, rfl, by rw [Numeral.exact_whole, value]; simp [Int.negSucc_eq]⟩

/-! ### Characters of numbers -/

def isNumeralChar (c : Char) : Bool := c.isDigit || ['_', '+', '-', '.', 'e', 'E'].contains c

def Leaves (cs rest : List Char) : Prop := ∃ used, cs = used ++ rest ∧ ∀ c ∈ used, isNumeralChar c = true

lemma Leaves.refl (cs : List Char) : Leaves cs cs := ⟨[], rfl, by simp⟩

lemma Leaves.cons (here : isNumeralChar c = true) (later : Leaves cs rest) : Leaves (c :: cs) rest := by
  obtain ⟨used, rfl, each⟩ := later
  exact ⟨c :: used, rfl, forall_mem_cons.mpr ⟨here, each⟩⟩

lemma Leaves.trans {ds : List Char} (first : Leaves cs ds) (second : Leaves ds rest) : Leaves cs rest := by
  obtain ⟨used, rfl, each⟩ := first
  obtain ⟨more, rfl, each'⟩ := second
  exact ⟨used ++ more, (append_assoc ..).symm, forall_mem_append.mpr ⟨each, each'⟩⟩

lemma leaves_takeSign (cs : List Char) : Leaves cs (takeSign cs).2 := by
  unfold takeSign
  split
  · exact (Leaves.refl _).cons (by decide)
  · exact (Leaves.refl _).cons (by decide)
  · exact Leaves.refl _

lemma isNumeralChar_of_isDigit (digit : c.isDigit = true) : isNumeralChar c = true := by
  simp [isNumeralChar, digit]

lemma leaves_takeDigits (cs : List Char) : Leaves cs (takeDigits cs).2 := by
  fun_induction takeDigits cs with
  | case1 => exact Leaves.refl _
  | case2 c d more other => exact Leaves.refl _
  | case3 c d more digit other => exact (Leaves.refl _).cons (isNumeralChar_of_isDigit (by simpa using digit))
  | case4 c d more digit digit' r ih => exact (ih.cons (by decide)).cons (isNumeralChar_of_isDigit (by simpa using digit))
  | case5 c rest other => exact Leaves.refl _
  | case6 c rest _ digit r ih => exact ih.cons (isNumeralChar_of_isDigit (by simpa using digit))

lemma leaves_takeExponent (cs : List Char) : Leaves cs (takeExponent cs).2 := by
  unfold takeExponent
  split
  · rename_i c rest
    split
    · rename_i mark
      have read : Leaves rest (takeDigits (takeSign rest).2).2 := (leaves_takeSign rest).trans (leaves_takeDigits _)
      have letter : isNumeralChar c = true := by rcases mark with rfl | rfl <;> decide
      simp only
      split
      · exact Leaves.refl _
      · rename_i ds after _ digits
        rw [digits] at read
        exact read.cons letter
    · exact Leaves.refl _
  · exact Leaves.refl _

lemma leaves_takeNumeral {x : Numeral} (taken : takeNumeral cs = some (x, rest)) : Leaves cs rest := by
  have whole : Leaves cs (takeDigits (takeSign cs).2).2 := (leaves_takeSign cs).trans (leaves_takeDigits _)
  have fraction : ∀ ds, Leaves ('.' :: ds) (takeExponent (takeDigits ds).2).2 := fun ds =>
    ((leaves_takeDigits ds).trans (leaves_takeExponent _)).cons (by decide)
  rw [takeNumeral] at taken
  split at taken
  · rename_i ds digits
    rw [digits] at whole
    simp only at taken
    split at taken
    · simp at taken
    · obtain rfl := (Prod.mk.inj (Option.some.inj taken)).2
      exact whole.trans (fraction ds)
  · simp at taken
  · rename_i more ds _ digits
    rw [digits] at whole
    obtain rfl := (Prod.mk.inj (Option.some.inj taken)).2
    exact whole.trans (fraction ds)
  · rename_i digits
    rw [digits] at whole
    obtain rfl := (Prod.mk.inj (Option.some.inj taken)).2
    exact whole.trans (leaves_takeExponent _)

lemma mem_dropWhile_of_not {p : Char → Bool} (member : c ∈ cs) (other : p c = false) : c ∈ cs.dropWhile p := by
  have whole := takeWhile_append_dropWhile (p := p) (l := cs)
  rw [← whole, mem_append] at member
  rcases member with front | back
  · rw [mem_takeWhile_imp front] at other
    simp at other
  · exact back

lemma isNumeralChar_of_parseNumeral? {s : String} {x : Numeral} (read : parseNumeral? s = some x)
    (member : c ∈ s.toList) (plain : plainChar c = c) (dark : isMargin c = false) : isNumeralChar c = true := by
  have kept : c ∈ dropMargins (s.toList.map plainChar) := by
    have mapped : c ∈ s.toList.map plainChar := mem_map.mpr ⟨c, member, plain⟩
    have front := mem_dropWhile_of_not mapped dark
    exact mem_reverse.mpr (mem_dropWhile_of_not (mem_reverse.mpr front) dark)
  rw [parseNumeral?] at read
  split at read
  · rename_i y taken
    obtain ⟨used, whole, each⟩ := leaves_takeNumeral taken
    rw [whole, append_nil] at kept
    exact each c kept
  · simp at read

end EprBench.Decimal
