import EprBench.LevelMonitor
import EprBench.Proofs.Line
import EprBench.Proofs.Names

/-! Waiting for a measurement of the level. Main statement: whatever numbers the monitor answers, a measurement is over with
the first one in which the bit of the channel is set, and until then the monitor is asked again. -/
namespace EprBench

open List

/-! ### Binary digits -/

namespace Text

lemma getElem?_lowDigits (n i : ℕ) {rest : List Char} (none : '1' ∉ rest) :
    (lowDigits n ++ rest)[i]? = some '1' ↔ n.testBit i = true := by
  fun_induction lowDigits n generalizing i with
  | case1 n ih =>
    cases i with
    | zero =>
      rw [cons_append, getElem?_cons_zero, Nat.testBit_zero, decide_eq_true_eq]
      split
      · simpa
      · rename_i even
        exact iff_of_false (by decide) even
    | succ i =>
      rw [cons_append, getElem?_cons_succ, Nat.testBit_succ]
      split
      · rename_i zero
        rw [nil_append, zero, Nat.zero_testBit]
        exact iff_of_false (fun there => none (List.mem_of_getElem? there)) (by decide)
      · rename_i more
        exact ih more i

lemma reverse_binary (n : ℕ) : (binary n).reverse = lowDigits n ++ ['b', '0'] := by
  rw [binary, if_neg (by omega), Int.natAbs_natCast, nil_append, reverse_append, reverse_reverse]
  rfl

end Text

/-! ### Waiting -/

namespace LevelMonitor

open Line Value

/-- Behind the digits of a number stand two more characters, so the first three places are never out of range. -/
lemma isMarked_natCast (n : ℕ) {i : ℕ} (low : i ≤ 2) : isMarked n (i + 1) = .ok (n.testBit i) := by
  have digits : 0 < (Text.lowDigits n).length := by
    rw [Text.lowDigits]
    exact Nat.succ_pos _
  have inside : i < (Text.lowDigits n ++ ['b', '0']).length := by
    rw [length_append, length_cons, length_singleton]
    omega
  have one := Text.getElem?_lowDigits n i (by decide : '1' ∉ ['b', '0'])
  rw [getElem?_eq_getElem inside, Option.some.injEq] at one
  rw [isMarked, Text.fromEnd, Text.reverse_binary, Nat.add_sub_cancel, getElem?_eq_getElem inside]
  exact congrArg Except.ok (Bool.eq_iff_iff.mpr (beq_iff_eq.trans one))

/-- The answer is the text of a status. -/
def Tells (v : Value) (n : ℕ) : Prop := intOfText v.display = .ok (n : ℤ)

def question : Event := .query (.text "*STB?")

/-- So many questions that were answered without the mark. -/
def polls (count : ℕ) : List Event := (List.replicate count [question, .sleep 1]).flatten

lemma polls_succ (count : ℕ) : polls (count + 1) = [question, .sleep 1] ++ polls count := by
  rw [polls, replicate_succ, flatten_cons]
  rfl

section

variable {s : Monitor} {b : Bench} {past : List Event} {v : Value} {n : ℕ} {vs rest : List Value} {ns : List ℕ} {bit : ℕ}

lemma perform_status (here : Converses s) (stands : b.Stands past rest) : ∃ b', perform (askInt "*STB?") s b =
    ((intOfText ((rest.head?.map display).getD ""), s), b') ∧ b'.Stands (past ++ [question]) rest.tail := by
  obtain ⟨b', asked, left⟩ := here.perform_query stands (.text "*STB?")
  refine ⟨b', ?_, left⟩
  rw [askInt, perform_bind, asked]
  rfl

/-- One status after the other: without the mark the rest of the answers is waited for. -/
lemma perform_awaitMark_cons (here : Converses s) (low : bit ≤ 2) (stands : b.Stands past (v :: rest)) (told : Tells v n)
    (count : ℕ) : ∃ b', perform (awaitMark (bit + 1) (count + 1)) s b =
      (if n.testBit bit then ((.ok (), s), b') else perform (awaitMark (bit + 1) count) s b') ∧
      b'.Stands (past ++ question :: if n.testBit bit then [] else [.sleep 1]) rest := by
  obtain ⟨b', asked, left⟩ := perform_status here stands
  rw [awaitMark, perform_bind, asked, head?_cons, Option.map_some, Option.getD_some, told, proceed_ok,
    isMarked_natCast n low, lift_ok_bind]
  cases n.testBit bit with
  | true => exact ⟨b', rfl, left⟩
  | false =>
    refine ⟨b'.noted (.sleep 1), perform_note_bind _ _, ?_⟩
    have slept := left.noted (.sleep 1)
    rwa [append_assoc] at slept

/-- Statuses without the mark are all passed over. -/
lemma perform_awaitMark_append (here : Converses s) (low : bit ≤ 2) (told : Forall₂ Tells vs ns)
    (unmarked : ∀ n ∈ ns, n.testBit bit = false) (stands : b.Stands past (vs ++ rest)) (count : ℕ) :
    ∃ b', perform (awaitMark (bit + 1) (ns.length + count)) s b = perform (awaitMark (bit + 1) count) s b' ∧
      b'.Stands (past ++ polls ns.length) rest := by
  induction told generalizing b past with
  | nil => exact ⟨b, by rw [length_nil, Nat.zero_add], by rwa [length_nil, polls, replicate_zero,
      flatten_nil, append_nil]⟩
  | @cons v n vs ns first _ ih =>
    obtain ⟨clear, later⟩ := forall_mem_cons.mp unmarked
    obtain ⟨b', passed, left⟩ := perform_awaitMark_cons here low stands first (ns.length + count)
    rw [clear, if_neg (by decide)] at passed left
    obtain ⟨b'', done, passedAll⟩ := ih later left
    refine ⟨b'', ?_, ?_⟩
    · rw [length_cons, Nat.add_right_comm, passed, done]
    · rwa [append_assoc, ← polls_succ] at passedAll

end

/-! ### Measuring -/

/-- The channels, with the bit of the status that tells that the level of a channel is there. -/
def readyBits : List (String × ℕ) := [("1", 0), ("2", 2)]

lemma measure_eq {c : String} {bit : ℕ} (channel : (c, bit) ∈ readyBits) : measure (.text c) = (do
    if !(← isLive) then return .nothing
    send (.text s!"MEAS {c}")
    awaitMark (bit + 1) ((← getThe Bench).replies.length + 1)
    send "*CLS"
    query (.text s!"MEAS? {c}")) := by
  simp only [readyBits, mem_cons, Prod.mk.injEq, not_mem_nil, or_false] at channel
  obtain ⟨rfl, rfl⟩ | ⟨rfl, rfl⟩ := channel
  · rw [measure, choice_text]; rfl
  · rw [measure, choice_text]; rfl

/-- What a measurement has done when it asks for the status after so many answers without the mark. -/
def waiting (c : String) (count : ℕ) : List Event := .write (.text s!"MEAS {c}") :: polls count ++ [question]

lemma perform_getBench_bind {σ α : Type} (f : Bench → Act σ α) (s : σ) (b : Bench) :
    perform (getThe Bench >>= f) s b = perform (f b) s b := rfl

/-- **Measurements.** As long as the bit of the channel is not set in a status, the monitor is asked once more, and nothing else
is done. With the first one in which it is set the status is cleared, once, and the level is asked for and handed on. -/
theorem measurement_ends_with_first_mark {s : Monitor} {c : String} {bit : ℕ} {vs : List Value} {ns : List ℕ}
    (channel : (c, bit) ∈ readyBits) (here : Converses s) (told : Forall₂ Tells vs ns)
    (unmarked : ∀ n ∈ ns, n.testBit bit = false) :
    (∀ b past v m rest, b.Stands past (vs ++ v :: rest) → Tells v m → m.testBit bit = true →
      ∃ b', perform (measure (.text c)) s b = ((.ok (.text ((rest.head?.map display).getD "")), s), b') ∧
        b'.Stands (past ++ waiting c ns.length ++ [.write "*CLS", .query (.text s!"MEAS? {c}")]) rest.tail) ∧
    ∀ b past, b.Stands past vs →
      ∃ e b', perform (measure (.text c)) s b = ((.error e, s), b') ∧ b'.Stands (past ++ waiting c ns.length) [] := by
  have low : bit ≤ 2 := (by decide : ∀ e ∈ readyBits, e.2 ≤ 2) _ channel
  have started {b : Bench} {past : List Event} {answers : List Value} (stands : b.Stands past answers) :
      ∃ b', perform (measure (.text c)) s b = perform (do
          awaitMark (bit + 1) (answers.length + 1)
          send "*CLS"
          query (.text s!"MEAS? {c}")) s b' ∧ b'.Stands (past ++ [.write (.text s!"MEAS {c}")]) answers := by
    refine ⟨_, ?_, stands.written _⟩
    rw [measure_eq channel, here.perform_isLive_bind, Bool.not_true, if_neg (by decide), perform_bind,
      here.perform_send stands.accepts,
      proceed_ok, perform_getBench_bind, (stands.written _).replies, length_map]
    rfl
  constructor
  · intro b past v m rest stands last marked
    obtain ⟨b₁, begun, stands₁⟩ := started stands
    have fuel : (vs ++ v :: rest).length + 1 = ns.length + (rest.length + 1 + 1) := by
      rw [length_append, length_cons, told.length_eq, Nat.add_assoc]
    obtain ⟨b₂, passed, stands₂⟩ := perform_awaitMark_append here low told unmarked stands₁ (rest.length + 1 + 1)
    obtain ⟨b₃, seen, stands₃⟩ := perform_awaitMark_cons here low stands₂ last (rest.length + 1)
    rw [marked, if_pos rfl] at seen stands₃
    obtain ⟨b₄, asked, stands₄⟩ := here.perform_query (stands₃.written (.write "*CLS")) (.text s!"MEAS? {c}")
    refine ⟨b₄, ?_, ?_⟩
    · rw [begun, fuel, perform_bind, passed, seen, proceed_ok, perform_bind, here.perform_send stands₃.accepts, proceed_ok]
      exact asked
    · simpa [waiting] using stands₄
  · intro b past stands
    obtain ⟨b₁, begun, stands₁⟩ := started stands
    rw [← append_nil vs] at stands₁
    obtain ⟨b₂, passed, stands₂⟩ := perform_awaitMark_append here low told unmarked stands₁ 1
    obtain ⟨b₃, asked, stands₃⟩ := perform_status here stands₂
    refine ⟨.wrongValue, b₃, ?_, ?_⟩
    · rw [begun, told.length_eq, perform_bind, passed, awaitMark, perform_bind, asked]
      rfl
    · simpa [waiting] using stands₃

/-- A monitor on its line. -/
def monitor : Monitor where
  link := { mode := .live, line := ⟨"LM-510", "ethernet", 3000, 0, 0, "", 0, 8, "N", 1, "", "", ""⟩, connected := some true }
  hasRecondenser := false

theorem second_channel_waits_for_its_bit : (∀ n ∈ [0, 1, 3], n.testBit 2 = false) ∧ Nat.testBit 6 2 = true ∧
      ∃ b', perform (measure "2") monitor { replies := ["0", "1", "3", "6", "12.5 cm"].map .answer } =
        ((.ok (.text "12.5 cm"), monitor), b') ∧ b'.log.toList = waiting "2" 3 ++ [.write "*CLS", .query "MEAS? 2"] := by
  have here : Converses monitor := ⟨⟨rfl, rfl⟩, rfl, rfl, rfl⟩
  have told : Forall₂ Tells ["0", "1", "3"] [0, 1, 3] :=
    .cons (by rfl) (.cons (by rfl) (.cons (by rfl) .nil))
  have unmarked : ∀ n ∈ [0, 1, 3], n.testBit 2 = false := by decide
  obtain ⟨b', done, stands⟩ := (measurement_ends_with_first_mark (by decide : ("2", 2) ∈ readyBits) here told unmarked).1
    { replies := ["0", "1", "3", "6", "12.5 cm"].map .answer } [] "6" 6 ["12.5 cm"] ⟨rfl, rfl, rfl, rfl⟩ (by rfl) (by decide)
  exact ⟨unmarked, by decide, b', done, stands.log⟩

end LevelMonitor

end EprBench
