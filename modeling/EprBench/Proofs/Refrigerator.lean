import EprBench.Proofs.Doubles
import EprBench.Proofs.Line
import EprBench.Refrigerator
import EprBench.Session

/-! The conditions of a compressor. Main statement: the active conditions are named exactly if there is at most one.
-/
namespace EprBench

open List

open Float.Model in
lemma Decimal.abs_ofInt {n : ℕ} (small : n < 2 ^ 53) : (ofInt n).abs = ofInt n := by
  rcases eq_or_ne n 0 with rfl | nonzero
  · rfl
  · have decoded : decode (ofInt n) = .finite false (n * 2 ^ (52 - n.log2)) (n.log2 - 52) :=
      decode_ofFraction_small false nonzero small
    have full := two_pow_le_shifted nonzero small
    have unpacked := unpack_of_full decoded full (by omega)
    have finite : (@UnpackedFloat.unpackExponent .binary64 (ofInt n).toBits.toBitVec).toNat ≠ 2047 := by
      rw [toNat_unpackExponent]
      intro top
      have field : (ofInt n).toBits.toNat / twoTo 52 % twoTo 11 = 2047 := top
      dsimp only [decode] at decoded
      rw [if_pos field] at decoded
      split at decoded <;> cases decoded
    have plain : (ofInt n).toModel.unpack.abs = (ofInt n).toModel.unpack := by
      rw [unpacked]
      rfl
    have packed : (ofInt n).toModel.abs.toBits = (ofInt n).toModel.toBits := by
      rw [Float.Model.abs, plain]
      exact congrArg UInt64.ofBitVec (pack_unpack finite)
    generalize ofInt n = x at packed
    exact congrArg Float.ofModel ((Float.Model.mk.injEq ..).mpr packed)

namespace Refrigerator

open Line Value

/-! ### Sums of weights -/

/-- What a register holds while these conditions are active. -/
def weight (active : List (String × ℤ)) : ℤ := (active.map (·.2)).sum

/-- Conditions whose weights are different powers of two. -/
def Binary (conditions : List (String × ℤ)) : Prop :=
  ∃ places : List ℕ, places.Pairwise (· < ·) ∧ conditions.map (·.2) = places.map fun i => 2 ^ i

variable {free : String} {conditions active : List (String × ℤ)}

lemma Binary.sublist (binary : Binary conditions) (part : active.Sublist conditions) : Binary active := by
  obtain ⟨places, sorted, weights⟩ := binary
  have short := part.map (·.2)
  rw [weights, sublist_map_iff] at short
  obtain ⟨places', part', weights'⟩ := short
  exact ⟨places', sorted.sublist part', weights'⟩

lemma weights_eq_of_weight_eq {other : List (String × ℤ)} (binary : Binary active) (binary' : Binary other)
    (same : weight active = weight other) : active.map (·.2) = other.map (·.2) := by
  obtain ⟨places, sorted, weights⟩ := binary
  obtain ⟨places', sorted', weights'⟩ := binary'
  have sum (l : List ℕ) : (l.map fun i => (2 : ℤ) ^ i).sum = ((l.map (2 ^ ·)).sum : ℕ) := by
    simp [Function.comp_def]
  rw [weight, weight, weights, weights', sum, sum, Nat.cast_inj] at same
  rw [weights, weights', ← Nat.bitIndices_sum_map_two_pow sorted.sortedLT, same,
    Nat.bitIndices_sum_map_two_pow sorted'.sortedLT]

/-- What is told of active conditions. -/
def told (free : String) : List (String × ℤ) → Value
  | [] => .text free
  | [c] => .text c.1
  | _ => .nothing

lemma nameOf_weight (binary : Binary conditions) (part : active.Sublist conditions) :
    nameOf ((free, 0) :: conditions) (weight active) = told free active := by
  -- An entry with this number stands for no condition, or for one that is active alone.
  have entries {e : String × ℤ} (entry : e ∈ (free, 0) :: conditions) (found : e.2 = weight active) :
      active = [] ∨ e ∈ conditions ∧ [e.2] = active.map (·.2) := by
    rcases mem_cons.mp entry with rfl | entry
    · have none := weights_eq_of_weight_eq (binary.sublist (nil_sublist _)) (binary.sublist part) found
      exact .inl (map_eq_nil_iff.mp none.symm)
    · have single : Binary [e] := binary.sublist (singleton_sublist.mpr entry)
      exact .inr ⟨entry, weights_eq_of_weight_eq single (binary.sublist part) (by simpa [weight] using found)⟩
  have apart : (conditions.map (·.2)).Nodup := by
    obtain ⟨places, sorted, weights⟩ := binary
    rw [weights]
    exact sorted.nodup.map fun i j same => by simpa using same
  rw [nameOf]
  rcases active with _ | ⟨c, _ | ⟨d, more⟩⟩
  · rfl
  · have here : c ∈ conditions := singleton_sublist.mp part
    rcases looked : ((free, 0) :: conditions).find? (·.2 == weight [c]) with _ | e
    · exact absurd (by simp [weight]) (find?_eq_none.mp looked c (mem_cons_of_mem _ here))
    · have found : e.2 = weight [c] := by simpa using find?_some looked
      obtain ⟨entry, same⟩ := (entries (mem_of_find?_eq_some looked) found).resolve_left (by simp)
      rw [looked, inj_on_of_nodup_map apart entry here (by simpa using same)]
      rfl
  · rw [find?_eq_none.mpr fun e entry found => by simpa using entries entry (by simpa using found)]
    rfl

/-! ### The report -/

/-- A value that has this name in it. -/
def Names (v : Value) (name : String) : Prop := ∃ text, v = .text text ∧ name.toList <:+: text.toList

/-- What a report says about conditions, some of which are active. -/
structure Tells (free : String) (active : List (String × ℤ)) (v : Value) : Prop where
  named : (∀ c ∈ active, Names v c.1) ↔ active.length ≤ 1
  missing : v = .nothing ↔ 2 ≤ active.length
  free : v = .text free ↔ active = []

lemma tells_told (other : ∀ c ∈ active, c.1 ≠ free) : Tells free active (told free active) := by
  match active with
  | [] => exact ⟨by simp, by simp [told], by simp [told]⟩
  | [c] =>
    have here : c.1 ≠ free := other c mem_cons_self
    refine ⟨?_, by simp [told], by simp [told, here]⟩
    simpa using ⟨c.1, rfl, infix_rfl⟩
  | c :: d :: more =>
    refine ⟨?_, by simp [told], by simp [told]⟩
    refine iff_of_false (fun all => ?_) (by simp)
    obtain ⟨_, wrong, -⟩ := all c mem_cons_self
    cases wrong

lemma binary_warnings : Binary warnings.tail := ⟨List.range 14 ++ [17, 18, 19], by decide, by decide⟩

lemma binary_alarms : Binary alarms.tail := ⟨List.range 19, by decide, by decide⟩

lemma weight_bounds (binary : Binary conditions) (part : active.Sublist conditions) :
    0 ≤ weight active ∧ weight active ≤ weight conditions := by
  have positive : ∀ w ∈ conditions.map (·.2), (0 : ℤ) ≤ w := by
    obtain ⟨places, -, weights⟩ := binary
    simp [weights]
  exact ⟨sum_nonneg fun w member => positive w ((part.map _).subset member), (part.map _).sum_le_sum positive⟩

lemma wholeSize_weight (binary : Binary conditions) (part : active.Sublist conditions) (small : weight conditions < 2 ^ 53) :
    wholeSize (.float (Decimal.ofInt (weight active))) = .ok (weight active) := by
  obtain ⟨low, high⟩ := weight_bounds binary part
  obtain ⟨n, whole⟩ := Int.eq_ofNat_of_zero_le low
  rw [whole, wholeSize, operand]
  change truncated (Decimal.ofInt n).abs = .ok (n : ℤ)
  rw [Decimal.abs_ofInt (by omega), truncated, Decimal.truncate?_ofInt (by omega)]

def readFloat (register : Value) : Event := .modbus "read_float" [register] [("byteorder", 3), ("functioncode", 4)]

lemma perform_readReal {s : Link} {b : Bench} {reply : Value} (here : Connected s) (replies : b.Replies reply)
    (register : Value) :
    perform (readReal register) s b = ((.ok reply, s), (b.noted (readFloat register)).heard) := by
  rw [readReal, readFrom, perform_theLink_bind, here.perform_needConnection_bind, perform_note_bind,
    perform_nextReply_bind (replies.noted _)]
  rfl

def request : Request := { name := "cryogenic_refrigerator_warning_data" }

/-- A bench on which the registers hold the sums for these conditions. -/
def Reports (b : Bench) (w a : List (String × ℤ)) : Prop :=
  ∃ rest, b.replies = .answer (.float (Decimal.ofInt (weight w))) :: .answer (.float (Decimal.ofInt (weight a))) :: rest

section

variable {w a : List (String × ℤ)} {s : Link} {b : Bench}

lemma answer_request (warned : w.Sublist warnings.tail) (alarmed : a.Sublist alarms.tail) (here : Connected s)
    (reports : Reports b w a) :
    (Session.answer cpa1110 s request).run.run b = (.ok (.ok (.list [told "No warnings" w, told "No Errors" a]), s),
      ((b.noted (readFloat 3)).heard.noted (readFloat 5)).heard) := by
  obtain ⟨rest, replies⟩ := reports
  have first : b.Replies (.float (Decimal.ofInt (weight w))) := congrArg List.head? replies
  have second : (b.noted (readFloat 3)).heard.Replies (.float (Decimal.ofInt (weight a))) := by
    simp [Bench.Replies, Bench.noted, Bench.heard, replies]
  have warning : wholeSize (.float (Decimal.ofInt (weight w))) = .ok (weight w) :=
    wholeSize_weight binary_warnings warned (by decide)
  have alarm : wholeSize (.float (Decimal.ofInt (weight a))) = .ok (weight a) :=
    wholeSize_weight binary_alarms alarmed (by decide)
  have asked : perform askConditions s b = ((.ok (.list [told "No warnings" w, told "No Errors" a]), s),
      ((b.noted (readFloat 3)).heard.noted (readFloat 5)).heard) := by
    rw [askConditions, perform_bind, perform_readReal here first, proceed_ok, warning, lift_ok_bind, perform_bind,
      perform_readReal here second, proceed_ok, alarm, lift_ok_bind, named, ← nameOf_weight binary_warnings warned,
      ← nameOf_weight binary_alarms alarmed]
    rfl
  have answered : (Session.answer cpa1110 s request).run.run b =
      (.ok (perform (Line.answer askConditions (.list ["No warnings", "No Errors"])) s b).1,
        (perform (Line.answer askConditions (.list ["No warnings", "No Errors"])) s b).2) := rfl
  rw [answered, here.perform_answer, asked]
  rfl

/-- **Conditions.** Whichever warnings and alarms are active, each half of the report names all active conditions of its kind
exactly if there is at most one, is empty exactly if there are more, and says that there is none only if there is none. -/
theorem conditions_are_named_iff (warned : w.Sublist warnings.tail) (alarmed : a.Sublist alarms.tail) (here : Connected s)
    (reports : Reports b w a) :
    ∃ warning alarm b', (Session.answer cpa1110 s request).run.run b = (.ok (.ok (.list [warning, alarm]), s), b') ∧
      b'.log.toList = b.log.toList ++ [readFloat 3, readFloat 5] ∧
      Tells "No warnings" w warning ∧ Tells "No Errors" a alarm := by
  refine ⟨_, _, _, answer_request warned alarmed here reports, by simp [Bench.noted, Bench.heard], ?_, ?_⟩
  · exact tells_told fun c active => (by decide : ∀ c ∈ warnings.tail, c.1 ≠ "No warnings") c (warned.subset active)
  · exact tells_told fun c active => (by decide : ∀ c ∈ alarms.tail, c.1 ≠ "No Errors") c (alarmed.subset active)

end

/-- A line to a compressor, and a bench on which the registers hold these numbers. -/
def compressor : Link where
  mode := .live
  line := ⟨"CPA1110", "rs485", 1000, 0, 0, "COM1", 115200, 8, "E", 1, "", "", ""⟩
  connected := some true

def holding (warning alarm : Float) : Bench := { replies := [.answer (.float warning), .answer (.float alarm)] }

theorem stalled_motor_is_named :
    ∃ warning alarm b', (Session.answer cpa1110 compressor request).run.run (holding 524288 0) =
      (.ok (.ok (.list [warning, alarm]), compressor), b') ∧
      Names warning "Cold head motor Stall" ∧ alarm = .text "No Errors" := by
  have last : List.Sublist [("Cold head motor Stall", 524288)] warnings.tail := singleton_sublist.mpr (by decide)
  obtain ⟨warning, alarm, b', answered, -, warned, alarmed⟩ :=
    conditions_are_named_iff last (nil_sublist _) (s := compressor) (b := holding 524288 0) ⟨rfl, rfl⟩ ⟨[], rfl⟩
  exact ⟨warning, alarm, b', answered, warned.named.mpr (by decide) _ mem_cons_self, alarmed.free.mpr rfl⟩

/-- The coolant running high at both ends, with the weights 1 and 4. -/
def overheated : List (String × ℤ) := [("Coolant IN running High", 1), ("Coolant OUT running High", 4)]

/-- Two warnings at once are reported as nothing. -/
theorem two_warnings_are_not_named : (∃ b', (Session.answer cpa1110 compressor request).run.run (holding 5 0) =
      (.ok (.ok (.list [.nothing, .text "No Errors"]), compressor), b')) ∧
    weight overheated = 5 ∧ ∀ c ∈ overheated, ¬ Names .nothing c.1 := by
  have both : overheated.Sublist warnings.tail := by decide
  refine ⟨⟨_, answer_request both (nil_sublist _) ⟨rfl, rfl⟩ ⟨[], rfl⟩⟩, rfl, ?_⟩
  rintro c - ⟨_, wrong, -⟩
  cases wrong

end Refrigerator

end EprBench
