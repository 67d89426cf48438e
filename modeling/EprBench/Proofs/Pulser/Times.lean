import EprBench.Proofs.Numerals
import EprBench.Proofs.Pulser.PhasePulses
import EprBench.Proofs.Quantity

/-! Times without rounding errors. The two readings of a time agree for a number and a unit with nothing else around
them, unless the unit is the second. -/
namespace EprBench.Pulser

open Decimal List Outcome

variable {s u : String} {x : ℚ} {v : Value} {c : Config} {m n : ℤ}

instance exactTimes : Timescale ℚ where
  ofText s := Value.orWrong ((parseNumeral? s).map Numeral.exact)
  isEven x := decide (x = 2 * ⌊x / 2⌋)

lemma ofText_eq_ok {q : ℚ} :
    (Timescale.ofText s : Outcome ℚ) = .ok q ↔ ∃ x, parseNumeral? s = some x ∧ x.exact = q := by
  show Value.orWrong ((parseNumeral? s).map Numeral.exact) = .ok q ↔ _
  cases parseNumeral? s with
  | none => simp [Value.orWrong]
  | some x => simp [Value.orWrong]

lemma isEven_iff : Timescale.isEven x = true ↔ ∃ m : ℤ, x = 2 * m := by
  show decide (x = 2 * ⌊x / 2⌋) = true ↔ _
  rw [decide_eq_true_eq]
  constructor
  · intro even
    exact ⟨_, even⟩
  · rintro ⟨m, rfl⟩
    rw [mul_div_cancel_left₀ _ (two_ne_zero), Int.floor_intCast]

lemma truncated_intCast (m : ℤ) : Quantity.truncated (m : ℚ) = .ok m := by
  have floor : Quantity.floor (m : ℚ) = .ok ⌊(m : ℚ)⌋ := rfl
  have ceiling : Quantity.ceiling (m : ℚ) = .ok ⌈(m : ℚ)⌉ := rfl
  rw [Quantity.truncated, floor, ceiling, Int.floor_intCast, Int.ceil_intCast, ite_self]

/-! ### Parts of a time -/

lemma toList_eq_intercalate (s : String) (sep : Char) :
    s.toList = [sep].intercalate ((s.pieces sep).map String.toList) := by
  have same : (s.pieces sep).map String.toList = s.toList.splitOn sep := by
    rw [String.pieces, map_map, Text.splitAt_eq_splitOn]
    exact (map_congr_left fun cs _ => String.toList_ofList).trans (map_id _)
  rw [same, intercalate_splitOn]

lemma toList_of_pieces {a : String} {more : List String} (cut : s.pieces ' ' = a :: u :: more) :
    ∃ rest, s.toList = a.toList ++ ' ' :: (u.toList ++ rest) ∧ (rest = [] ↔ more = []) ∧ ∀ c ∈ rest.head?, c = ' ' := by
  have whole := toList_eq_intercalate s ' '
  rw [cut, map_cons, map_cons, intercalate_cons_cons] at whole
  cases more with
  | nil =>
    rw [map_nil, intercalate_singleton] at whole
    exact ⟨[], by simpa using whole, by simp, by simp⟩
  | cons b more =>
    rw [map_cons, intercalate_cons_cons] at whole
    exact ⟨' ' :: [' '].intercalate (b.toList :: more.map String.toList), by simpa using whole, by simp, by simp⟩

lemma toList_last (s : String) : (s.part (some (-2)) none).toList = s.toList.drop (s.toList.length - 2) := by
  rw [String.part, String.toList_ofList]
  have place : Text.position s.toList.length (-2) = s.toList.length - 2 := by
    rw [Text.position, if_pos (by decide)]
    omega
  simp [Text.slice, place]

lemma toList_front (s : String) : (s.part none (some (-3))).toList = s.toList.take (s.toList.length - 3) := by
  rw [String.part, String.toList_ofList]
  have place : Text.position s.toList.length (-3) = s.toList.length - 3 := by
    rw [Text.position, if_pos (by decide)]
    omega
  simp [Text.slice, place]

lemma part_of_toList {a : String} (whole : s.toList = a.toList ++ ' ' :: u.toList) (two : u.toList.length = 2) :
    s.part (some (-2)) none = u ∧ s.part none (some (-3)) = a := by
  have length : s.toList.length = a.toList.length + 3 := by
    rw [whole, length_append, length_cons, two]
  have front : (a.toList ++ [' ']).length = s.toList.length - 2 := by
    rw [length, length_append, length_singleton]
    omega
  have cut : s.toList = (a.toList ++ [' ']) ++ u.toList := by simpa using whole
  constructor
  · rw [← String.toList_inj, toList_last, ← front, cut, drop_left]
  · rw [← String.toList_inj, toList_front, length, Nat.add_sub_cancel, whole, take_left]

/-! ### What is read in the end -/

lemma ticksOf_text (c : Config) (s : String) : ticksOf ℚ c (.text s) =
    match tickFactors.lookup (s.part (some (-2)) none) with
    | none => .ok none
    | some k => do
      let x : ℚ ← Timescale.ofText (s.part none (some (-3)))
      return some (← Quantity.truncated (x * Quantity.ofInt k / Quantity.ofInt c.timebase)) := by
  have last : (Value.text s).slice (some (-2)) none = .ok (.text (s.part (some (-2)) none)) := rfl
  have front : (Value.text s).slice none (some (-3)) = .ok (.text (s.part none (some (-3)))) := rfl
  rw [ticksOf, last, ok_bind, choice_text, ok_bind, front]
  simp only [ok_bind, Value.asText]
  cases tickFactors.lookup (s.part (some (-2)) none) with
  | none => simp only [pure, Except.pure]
  | some k => simp only

/-! ### The two readings -/

/-- A number and a unit other than the second, with nothing else around them. -/
def Plain (v : Value) : Prop := ∃ a u, v.pieces ' ' = .ok [a, u] ∧ u ≠ "s"

def Unmarked (v : Value) : Prop := ∀ s, v = .text s → ∀ u ∈ ["ns", "us", "ms"], ¬ u.toList <:+ s.toList

lemma mem_of_lookup {α : Type} {table : List (String × α)} {name : String} {x : α} (found : table.lookup name = some x) :
    (name, x) ∈ table := by
  obtain ⟨front, back, split, -⟩ := lookup_eq_some_iff.mp found
  rw [split]
  exact mem_append_right _ mem_cons_self

lemma nanoseconds_ok (read : nanoseconds ℚ v = .ok x) :
    ∃ s a u more k q, v = .text s ∧ s.pieces ' ' = a :: u :: more ∧ unitLengths.lookup u = some k ∧
      parseNumeral? a = some q ∧ x = k * q.exact := by
  obtain ⟨words, cut, read⟩ := bind_eq_ok.mp read
  obtain ⟨u, second, read⟩ := bind_eq_ok.mp read
  split at read
  · rename_i k unit
    obtain ⟨a, first, read⟩ := bind_eq_ok.mp read
    obtain ⟨y, number, value⟩ := bind_eq_ok.mp read
    obtain ⟨q, parsed, rfl⟩ := ofText_eq_ok.mp number
    rw [pure_eq_ok] at value
    cases v with
    | text s =>
      obtain rfl : s.pieces ' ' = words := Except.ok.inj cut
      rcases pieces : s.pieces ' ' with _ | ⟨a', _ | ⟨u', more⟩⟩
      · rw [pieces] at first
        simp [pick, Text.item?] at first
      · rw [pieces] at second
        simp [pick, Text.item?] at second
      · rw [pieces] at first second
        obtain rfl : a' = a := by simpa [pick, Text.item?] using first
        obtain rfl : u' = u := by simpa [pick, Text.item?] using second
        exact ⟨s, a', u', more, k, q, rfl, pieces, unit, parsed, value.symm⟩
    | _ => simp [Value.pieces] at cut
  · simp at read

lemma ticksOf_plain (two : c.timebase = 2) (read : nanoseconds ℚ v = .ok x)
    (even : x = 2 * m) (plain : Plain v) : ticksOf ℚ c v = .ok (some m) := by
  obtain ⟨s, a, u, more, k, q, rfl, cut, unit, number, rfl⟩ := nanoseconds_ok read
  obtain ⟨a', u', cut', other⟩ := plain
  obtain ⟨rfl, rfl, rfl⟩ : a = a' ∧ u = u' ∧ more = [] := by
    have same : s.pieces ' ' = [a', u'] := Except.ok.inj cut'
    simpa [cut] using same
  obtain ⟨rest, whole, none, -⟩ := toList_of_pieces cut
  rw [none.mpr rfl, append_nil] at whole
  have known : ∀ e ∈ unitLengths, e.1 ≠ "s" → e.1.toList.length = 2 ∧ tickFactors.lookup e.1 = some e.2 := by decide
  obtain ⟨length, factor⟩ := known (u, k) (mem_of_lookup unit) other
  obtain ⟨last, front⟩ := part_of_toList whole length
  have half : q.exact * k / 2 = (m : ℚ) := by
    rw [mul_comm, even, mul_div_cancel_left₀ _ two_ne_zero]
  rw [ticksOf_text, last, front, factor]
  simp only [ofText_eq_ok.mpr ⟨q, number, rfl⟩, ok_bind, two, Quantity.ofInt_eq, Int.cast_ofNat, half,
    truncated_intCast]
  rfl

lemma blank_of_short_rest {front rest : List Char} (whole : s.toList = front ++ ' ' :: rest)
    (short : rest.length ≤ 1) : ' ' ∈ (s.part (some (-2)) none).toList := by
  rw [toList_last, whole, drop_append_of_le_length (by simp; omega)]
  simp

lemma plain_of_ticks (read : nanoseconds ℚ v = .ok x) (ticks : ticksOf ℚ c v = .ok (some m)) : Plain v := by
  obtain ⟨s, a, u, more, k, q, rfl, cut, unit, -, -⟩ := nanoseconds_ok read
  rw [ticksOf_text] at ticks
  cases factor : tickFactors.lookup (s.part (some (-2)) none) with
  | none => simp [factor] at ticks
  | some k' =>
    simp only [factor] at ticks
    obtain ⟨y, number, -⟩ := bind_eq_ok.mp ticks
    obtain ⟨q', parsed, -⟩ := ofText_eq_ok.mp number
    have dark : ' ' ∉ (s.part (some (-2)) none).toList := by
      have units : ∀ e ∈ tickFactors, ' ' ∉ e.1.toList := by decide
      exact units (s.part (some (-2)) none, k') (mem_of_lookup factor)
    obtain ⟨rest, whole, ends, blank⟩ := toList_of_pieces cut
    cases rest with
    | nil =>
      obtain rfl := ends.mp rfl
      refine ⟨a, u, congrArg Except.ok cut, ?_⟩
      rintro rfl
      exact dark (blank_of_short_rest whole (by decide))
    | cons b rest =>
      -- What follows the unit is long, or else a blank is among the last two characters; so the unit is taken for a part of
      -- the number.
      exfalso
      obtain rfl : b = ' ' := blank b (by simp)
      have long : ¬ rest.length ≤ 1 := by
        intro short
        rw [← cons_append, ← append_assoc] at whole
        exact dark (blank_of_short_rest whole short)
      have seconds : 's' ∈ u.toList := by
        have units : ∀ e ∈ unitLengths, 's' ∈ e.1.toList := by decide
        exact units (u, k) (mem_of_lookup unit)
      have kept : 's' ∈ (s.part none (some (-3))).toList := by
        have room : (a.toList ++ ' ' :: u.toList).length ≤ s.toList.length - 3 := by
          rw [whole]
          simp only [length_append, length_cons]
          omega
        have split : s.toList = (a.toList ++ ' ' :: u.toList) ++ ' ' :: rest := by simpa using whole
        rw [toList_front, split, take_append, ← split, take_of_length_le room]
        simp [seconds]
      exact absurd (isNumeralChar_of_parseNumeral? parsed kept (by decide) (by decide)) (by decide)

lemma part_of_suffix (two : u.toList.length = 2) (suffix : u.toList <:+ s.toList) : s.part (some (-2)) none = u := by
  rw [← String.toList_inj, toList_last, ← two]
  exact (suffix_iff_eq_drop.mp suffix).symm

lemma readable_iff (two : c.timebase = 2) (read : nanoseconds ℚ v = .ok (2 * m)) :
    (∃ d, ticksOf ℚ c v = .ok d) ↔ Plain v ∨ Unmarked v := by
  constructor
  · rintro ⟨d, ticks⟩
    cases d with
    | some n => exact .inl (plain_of_ticks read ticks)
    | none =>
      refine .inr ?_
      rintro s rfl u member suffix
      have units : ∀ u ∈ ["ns", "us", "ms"], u.toList.length = 2 ∧ (tickFactors.lookup u).isSome = true := by decide
      obtain ⟨length, known⟩ := units u member
      obtain ⟨k, factor⟩ := Option.isSome_iff_exists.mp known
      rw [ticksOf_text, part_of_suffix length suffix] at ticks
      simp only [factor] at ticks
      obtain ⟨y, -, ticks⟩ := bind_eq_ok.mp ticks
      obtain ⟨n, -, ticks⟩ := bind_eq_ok.mp ticks
      simp at ticks
  · rintro (plain | unmarked)
    · exact ⟨some m, ticksOf_plain two read rfl plain⟩
    · obtain ⟨s, a, u, more, k, q, rfl, cut, unit, -, -⟩ := nanoseconds_ok read
      refine ⟨none, ?_⟩
      rw [ticksOf_text]
      cases factor : tickFactors.lookup (s.part (some (-2)) none) with
      | none => rfl
      | some k' =>
        exfalso
        have units : ∀ e ∈ tickFactors, e.1.toList.length = 2 → e.1 ∈ ["ns", "us", "ms"] := by decide
        have length : (s.part (some (-2)) none).toList.length = 2 := by
          obtain ⟨rest, whole, -⟩ := toList_of_pieces cut
          have some : ∀ e ∈ unitLengths, 1 ≤ e.1.toList.length := by decide
          have := some (u, k) (mem_of_lookup unit)
          rw [toList_last, length_drop, whole]
          simp only [length_append, length_cons] at this ⊢
          omega
        refine unmarked s rfl _ (units (s.part (some (-2)) none, k') (mem_of_lookup factor) length) ?_
        rw [toList_last]
        exact drop_suffix _ _

/-! ### Whole nanoseconds -/

lemma wholeTime_ok (whole : wholeTime v = .ok n) :
    ∃ words u k a i, v.pieces ' ' = .ok words ∧ pick words 1 = .ok u ∧ unitLengths.lookup u = some k ∧
      pick words 0 = .ok a ∧ Value.intOfText a = .ok i ∧ n = i * k := by
  obtain ⟨words, cut, whole⟩ := bind_eq_ok.mp whole
  obtain ⟨u, second, whole⟩ := bind_eq_ok.mp whole
  cases unit : unitLengths.lookup u with
  | none => simp [unit] at whole
  | some k =>
    simp only [unit] at whole
    obtain ⟨a, first, whole⟩ := bind_eq_ok.mp whole
    obtain ⟨i, number, value⟩ := bind_eq_ok.mp whole
    exact ⟨words, u, k, a, i, cut, second, unit, first, number, (pure_eq_ok.mp value).symm⟩

lemma nanoseconds_of_wholeTime (whole : wholeTime v = .ok n) : nanoseconds ℚ v = .ok (n : ℚ) := by
  obtain ⟨words, u, k, a, i, cut, second, unit, first, number, rfl⟩ := wholeTime_ok whole
  have parsed : parseInt? a = some i := by
    cases read : parseInt? a with
    | none => simp [Value.intOfText, read, Value.orWrong] at number
    | some j => simpa [Value.intOfText, read, Value.orWrong] using number
  have text : (Timescale.ofText a : Outcome ℚ) = .ok (i : ℚ) := ofText_eq_ok.mpr (parseNumeral?_of_parseInt? parsed)
  rw [nanoseconds, cut, ok_bind, second, ok_bind, unit]
  simp only [first, ok_bind, text, Quantity.ofInt_eq]
  rw [pure_eq_ok]
  push_cast
  ring

lemma moved_of_wholeTime (mode : Mode) (whole : wholeTime v = .ok n) (d : ℤ) :
    moved mode v (.int d) = .ok (intText (n + d) ++ " ns") := by
  obtain ⟨words, u, k, a, i, cut, second, unit, first, number, rfl⟩ := wholeTime_ok whole
  unfold moved
  rw [cut, ok_bind, second, ok_bind, unit]
  simp only [first, ok_bind, number]
  rfl

lemma ticksOf_inNanoseconds (two : c.timebase = 2) (m : ℤ) : ticksOf ℚ c (inNanoseconds (2 * m)) = .ok (some m) := by
  have whole : (intText (2 * m) ++ " ns").toList = (intText (2 * m)).toList ++ ' ' :: "ns".toList := by
    rw [String.toList_append]
    rfl
  obtain ⟨last, front⟩ := part_of_toList whole (by decide)
  obtain ⟨q, numeral, exact⟩ := parseNumeral?_intText (2 * m)
  have half : ((2 * m : ℤ) : ℚ) * 1 / 2 = (m : ℚ) := by
    push_cast
    ring
  have factor : tickFactors.lookup "ns" = some 1 := rfl
  rw [inNanoseconds, ticksOf_text, last, front, factor]
  simp only [ofText_eq_ok.mpr ⟨q, numeral, exact⟩, ok_bind, two, Quantity.ofInt_eq, Int.cast_ofNat, Int.cast_one,
    half, truncated_intCast]
  rfl

end EprBench.Pulser
