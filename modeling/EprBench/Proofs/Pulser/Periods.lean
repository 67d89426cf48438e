import EprBench.Proofs.Pulser.Calls
import EprBench.Proofs.Pulser.Programs

/-! Programs in time. The instructions follow each other without a gap from zero to the end of one period. Their times are told
in cells of 64 bits: those of a sequence shorter than 2 ^ 63 ns as they are, longer ones wrapped round. -/
namespace EprBench.Pulser

open List Outcome

variable {t u period : Int} {is : List Instruction} {s : Sequence} {rows : List Row}

/-! ### Instructions one after the other -/

def Tiles : Int → List Instruction → Int → Prop
  | t, [], u => t = u
  | t, i :: is, u => i.start = t ∧ Tiles (t + i.duration) is u

lemma tiles_append {xs ys : List Instruction} : Tiles t (xs ++ ys) u ↔ ∃ m, Tiles t xs m ∧ Tiles m ys u := by
  induction xs generalizing t with
  | nil => simp [Tiles]
  | cons i xs ih =>
    simp only [cons_append, Tiles, ih]
    constructor
    · rintro ⟨start, m, first, second⟩
      exact ⟨m, ⟨start, first⟩, second⟩
    · rintro ⟨m, ⟨start, first⟩, second⟩
      exact ⟨start, m, first, second⟩

lemma Tiles.chained (tiles : Tiles t is u) : is.IsChain fun i j => j.start = i.start + i.duration := by
  induction is generalizing t with
  | nil => exact .nil
  | cons i is ih =>
    refine isChain_cons.mpr ⟨fun j first => ?_, ih tiles.2⟩
    cases is with
    | nil => simp at first
    | cons k is =>
      obtain rfl : k = j := by simpa using first
      rw [tiles.1]
      exact tiles.2.1

lemma Tiles.ends {P : Int → Prop} (tiles : Tiles t is u) (starts : ∀ i ∈ is, P i.start) (last : P u) :
    ∀ i ∈ is, P (i.start + i.duration) := by
  induction is generalizing t with
  | nil => simp
  | cons i is ih =>
    obtain ⟨-, later⟩ := forall_mem_cons.mp starts
    refine forall_mem_cons.mpr ⟨?_, ih tiles.2 later⟩
    rw [tiles.1]
    cases is with
    | nil =>
      obtain rfl : t + i.duration = u := tiles.2
      exact last
    | cons j is => exact tiles.2.1 ▸ later j mem_cons_self

lemma Tiles.finish (tiles : Tiles t is u) (some : is ≠ []) : Sequence.finish is = .ok u := by
  obtain ⟨front, last, rfl⟩ : ∃ front last, is = front ++ [last] := ⟨_, _, (dropLast_append_getLast some).symm⟩
  obtain ⟨m, -, start, stop⟩ := tiles_append.mp tiles
  have ended : m + last.duration = u := stop
  rw [Sequence.finish, getLast?_concat]
  dsimp only
  rw [start, ended]

namespace Sequence

/-- A time of a sequence that begins at tick `first`, at some tick up to `last`. -/
def AtTick (timebase first last t : Int) : Prop := ∃ x, first ≤ x ∧ x ≤ last ∧ t = timebase * (x - first)

/-- The instructions take one period: they follow each other from zero on, and the last of them is idle. -/
structure Follows (period : Int) (is : List Instruction) : Prop where
  begins : is.head?.map Instruction.start = some 0
  chained : is.IsChain fun i j => j.start = i.start + i.duration
  total : (is.map Instruction.duration).sum = period
  idle : is.getLast?.map Instruction.word = some 0

/-- A sequence that is over before 2 ^ 63 ns have passed. -/
structure Short (timebase : Int) (rows : List Row) : Prop where
  forward : 0 ≤ timebase
  early : timebase * (lastStop rows - (firstStart rows - leadIn)) < 2 ^ 63

lemma Short.time {timebase : Int} (short : Short timebase rows)
    (time : AtTick timebase (firstStart rows - leadIn) (lastStop rows) t) : 0 ≤ t ∧ t < 2 ^ 63 := by
  obtain ⟨x, low, high, rfl⟩ := time
  have early := mul_le_mul_of_nonneg_left (sub_le_sub_right high (firstStart rows - leadIn)) short.forward
  exact ⟨mul_nonneg short.forward (sub_nonneg.mpr low), early.trans_lt short.early⟩

lemma wrapped_eq_self {n : Int} (low : -2 ^ 63 ≤ n) (high : n < 2 ^ 63) : Value.wrapped n = n := by
  have all : twoTo 64 = 2 ^ 64 := by decide
  rw [Value.wrapped, all, Int.bmod]
  split
  · omega
  · omega

lemma Short.wrapped_eq {timebase : Int} (short : Short timebase rows) (tiles : Tiles 0 is u)
    (ended : AtTick timebase (firstStart rows - leadIn) (lastStop rows) u)
    (starts : ∀ i ∈ is, AtTick timebase (firstStart rows - leadIn) (lastStop rows) i.start) :
    is.map Instruction.wrapped = is := by
  have ends := tiles.ends starts ended
  refine (map_congr_left fun i member => ?_).trans is.map_id
  obtain ⟨low, high⟩ := short.time (starts i member)
  obtain ⟨low', high'⟩ := short.time (ends i member)
  rw [Instruction.wrapped, wrapped_eq_self (by omega) high, wrapped_eq_self (by omega) (by omega)]
  rfl

end Sequence

namespace Device

/-- How a sequence that does not fit into a period is turned down. -/
def refusal : Mode → Fault
  | .live => .stopped
  | .rehearsal => .refused Sequence.tooLong

end Device

/-! ### The command -/

open Device Sequence

def ask (r : Request) : Act Device Value :=
  match Call.commandOf r with
  | none => throw .noMember
  | some c => c.call r

def written (is : List Instruction) : Value := .list (is.map fun i => i.cells .int)

/-- What comes of a request for a program. The program takes the period, and is told in cells; the times of a short sequence are
told as they are. Where none is made although there are rows and all of them last, the sequence is turned down because it
leaves too little of the period. -/
def Timed (p : Device) (period : Int) (rows : Outcome (List Row)) : Outcome Value → Prop
  | .ok v => ∃ rs is, rows = .ok rs ∧ v = written (is.map Instruction.wrapped) ∧ Follows period is ∧
      (∀ i ∈ is.getLast?, p.config.minLength + 4 < i.wrapped.duration) ∧
      (Short p.config.timebase rs → 0 ≤ period → is.map Instruction.wrapped = is)
  | .error e => ∀ rs, rows = .ok rs → rs ≠ [] → (∀ r ∈ rs, r.start < r.stop) → fits period = true →
      e = refusal p.mode ∧ ∃ front t, p.sequence.assemble rs = .ok front ∧ finish front = .ok t ∧
        Value.wrapped (period - t) ≤ p.config.minLength + 4 ∧
        (Short p.config.timebase rs → 0 ≤ period → Value.wrapped (period - t) = period - t)

def undefended : Device := make { Config.factory with autoDefense := "False" } .rehearsal

end EprBench.Pulser
