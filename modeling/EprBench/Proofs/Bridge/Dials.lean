import EprBench.Bridge.Commands
import EprBench.Proofs.Line
import EprBench.Proofs.Numerals
import EprBench.Proofs.Quantity

/-! Attenuators and phase shifters. Main statement: the byte that is sent stands for the amount nearest to the one
asked for exactly if that is at most half a step above it. -/
namespace EprBench.Bridge

open Line Quantity Value

/-! ### Graduations -/

namespace Graduation

/-- The distance of neighbouring amounts. -/
def width (g : Graduation) : ℚ := g.amount 1

variable {g : Graduation} {x : ℚ}

lemma amount_eq (g : Graduation) (k : ℤ) : g.amount k = k * g.width := by
  cases g with
  | fraction n => simp [width, amount, div_eq_mul_inv]
  | decimal m e => simp [width, amount]
  | whole n => simp [width, amount]

lemma steps_eq (g : Graduation) (x : ℚ) : g.steps x = x / g.width := by
  cases g with
  | fraction n => simp [steps, width, amount, mul_comm]
  | decimal m e => simp [steps, width, amount]
  | whole n => simp [steps, width, amount]

lemma code_eq (positive : 0 < g.width) (forward : 0 ≤ x) : g.code x = .ok ⌊g.steps x⌋ := by
  apply truncated_of_nonneg
  rw [steps_eq]
  exact div_nonneg forward positive.le

lemma nearest_iff (positive : 0 < g.width) (x : ℚ) :
    (∀ j : ℤ, |g.amount ⌊g.steps x⌋ - x| ≤ |g.amount j - x|) ↔ Int.fract (g.steps x) ≤ 1 / 2 := by
  have whole : x = (⌊g.steps x⌋ + Int.fract (g.steps x)) * g.width := by
    rw [Int.floor_add_fract, steps_eq, div_mul_cancel₀ _ positive.ne']
  have low := Int.fract_nonneg (g.steps x)
  have high := Int.fract_lt_one (g.steps x)
  generalize ⌊g.steps x⌋ = k, Int.fract (g.steps x) = f at whole low high
  -- distances in steps
  have distance (j : ℤ) : |g.amount j - x| = |(j : ℚ) - k - f| * g.width := by
    rw [amount_eq, whole, ← sub_mul, abs_mul, abs_of_pos positive, sub_add_eq_sub_sub]
  simp only [distance, mul_le_mul_iff_of_pos_right positive, sub_self, zero_sub, abs_neg, abs_of_nonneg low]
  constructor
  · intro nearest
    have next := nearest (k + 1)
    push_cast at next
    rw [add_sub_cancel_left, abs_of_pos (by linarith)] at next
    linarith
  · intro half j
    rcases le_or_gt j k with before | after
    · have : (j : ℚ) ≤ k := by exact_mod_cast before
      rw [abs_of_nonpos (by linarith)]
      linarith
    · have : (k : ℚ) + 1 ≤ j := by exact_mod_cast after
      rw [le_abs]
      exact .inl (by linarith)

/-- Whether the text for an amount is a numeral of that amount. -/
def Tells (g : Graduation) (n : ℕ) : Prop := (Decimal.parseNumeral? (g.text n)).map Decimal.Numeral.exact = some (g.amount n)

instance (g : Graduation) (n : ℕ) : Decidable (g.Tells n) := inferInstanceAs (Decidable (_ = _))

end Graduation

/-! ### Dials -/

variable {s : State} {b : Bench} {reply : Value}

lemma perform_exchange (serves : Endpoint.Serves b reply) (packet : List UInt8) (count : ℕ) :
    perform (exchange packet count) s b = ((.ok (Text.slice none (some count) (Endpoint.replyOf (some reply))), s),
      (((b.noted s.endpoint.opened).written (s.endpoint.sent (.bytes packet))).noted (.receive count)).heard) := by
  rw [exchange, perform_get_bind, perform_work, serves.carry_ask]

namespace Dial

/-- What the user is told about an amount that is not available. -/
def notice (d : Dial) (x : ℚ) (code : ℤ) : List Event :=
  if d.graduation.isExact x code then []
  else [.message s!"{d.what} value is rounded to the nearest available {d.graduation.text code}{d.unit}"]

variable {d : Dial} {x : ℚ}

lemma perform_turn {n : UInt8} (coded : d.graduation.code x = .ok n.toNat) (serves : Endpoint.Serves b reply) :
    ∃ b', perform (d.turn x) s b = ((.ok (), s), b') ∧ b'.log.toList = b.log.toList ++ d.notice x n.toNat ++
      [s.endpoint.opened, s.endpoint.sent (.bytes [d.setCode, 1, n]), .receive 3] := by
  have fits : Graduation.byte n.toNat = .ok n := by
    have := n.toNat_lt
    rw [Graduation.byte, if_pos (by simp; omega)]
    simp
  have sent {b : Bench} (serves : Endpoint.Serves b reply) : ∃ b', perform (do
        let byte ← Graduation.byte n.toNat
        let _ ← exchange [d.setCode, 1, byte] 3 : Act State Unit) s b = ((.ok (), s), b') ∧
      b'.log.toList = b.log.toList ++ [s.endpoint.opened, s.endpoint.sent (.bytes [d.setCode, 1, n]), .receive 3] := by
    rw [perform_bind, perform_lift, fits, proceed_ok, perform_bind, perform_exchange serves]
    exact ⟨_, rfl, by simp [Bench.heard, Bench.noted, Bench.written]⟩
  rw [turn, perform_bind, perform_lift, coded, proceed_ok, notice]
  cases d.graduation.isExact x n.toNat with
  | true =>
    rw [Bool.not_true, if_neg (by decide), if_pos rfl, List.append_nil]
    exact sent serves
  | false =>
    rw [Bool.not_false, if_pos rfl, if_neg (by decide), perform_bind, perform_work, Bench.carry_message serves.live, proceed_ok]
    obtain ⟨b', done, log⟩ := sent (serves.noted (.message _))
    exact ⟨b', done, by rw [log, Bench.noted, Array.toList_push]⟩

lemma perform_ask {p q n : UInt8} (serves : Endpoint.Serves b (.bytes [p, q, n])) :
    ∃ b', perform d.ask s b = ((.ok (.text s!"{d.label}: {d.graduation.text n.toNat} {d.unit}"), s), b') ∧
      b'.log.toList = b.log.toList ++ [s.endpoint.opened, s.endpoint.sent (.bytes [d.askCode, 1, 0]), .receive 3] := by
  rw [ask, perform_bind, perform_exchange serves]
  exact ⟨_, rfl, by simp [Bench.heard, Bench.noted, Bench.written]⟩

lemma vaneDials_fit : ∀ d ∈ vaneDials, 0 < d.graduation.width ∧ (decimal d.max.1 d.max.2 : ℚ) ≤ 63 * d.graduation.width ∧
    ∀ n < 64, d.graduation.Tells n := by
  have half : ∀ n < 64, halves.Tells n := by decide +kernel
  have phase : ∀ n < 64, phases.Tells n := by decide +kernel
  have two : ∀ n < 64, (Graduation.whole 2).Tells n := by decide +kernel
  simp only [vaneDials, List.forall_mem_cons]
  refine ⟨⟨?_, ?_, half⟩, ⟨?_, ?_, half⟩, ⟨?_, ?_, phase⟩, ⟨?_, ?_, phase⟩, ⟨?_, ?_, two⟩, ⟨?_, ?_, half⟩, by simp⟩
  all_goals decide +kernel

lemma code_eq_byte (positive : 0 < d.graduation.width) (room : (decimal d.max.1 d.max.2 : ℚ) ≤ 63 * d.graduation.width)
    (allowed : d.isAllowed x = true) : ∃ n : UInt8, n.toNat < 64 ∧ ⌊d.graduation.steps x⌋ = n.toNat ∧
      d.graduation.code x = .ok n.toNat := by
  simp only [isAllowed, Bool.and_eq_true, le_eq, zero_eq, decide_eq_true_eq] at allowed
  obtain ⟨forward, high⟩ := allowed
  have low : 0 ≤ ⌊d.graduation.steps x⌋ := by
    rw [Graduation.steps_eq]
    exact Int.floor_nonneg.mpr (div_nonneg forward positive.le)
  have top : ⌊d.graduation.steps x⌋ < 64 := by
    rw [Graduation.steps_eq, Int.floor_lt, div_lt_iff₀ positive]
    push_cast
    linarith
  have byte : (UInt8.ofNat ⌊d.graduation.steps x⌋.toNat).toNat = ⌊d.graduation.steps x⌋.toNat := by
    rw [UInt8.toNat_ofNat', Nat.mod_eq_of_lt (by omega)]
  have floor : ⌊d.graduation.steps x⌋ = (UInt8.ofNat ⌊d.graduation.steps x⌋.toNat).toNat := by
    rw [byte, Int.toNat_of_nonneg low]
  refine ⟨UInt8.ofNat ⌊d.graduation.steps x⌋.toNat, by omega, floor, ?_⟩
  rw [Graduation.code_eq positive forward, ← floor]

/-- **Dials.** An amount that is allowed is sent as a byte, with a notice about the amount the byte stands for unless they
are equal, and a bridge that has stored the byte is understood to have that amount. It is the nearest one of all exactly if
the amount asked for is at most half a step above it. -/
theorem nearest_amount_is_sent_iff (member : d ∈ vaneDials) (allowed : d.isAllowed x = true) : ∃ n : UInt8,
    (∀ s b reply, Endpoint.Serves b reply → ∃ b', perform (d.turn x) s b = ((.ok (), s), b') ∧
      b'.log.toList = b.log.toList ++ d.notice x n.toNat ++
        [s.endpoint.opened, s.endpoint.sent (.bytes [d.setCode, 1, n]), .receive 3]) ∧
    (∀ s b p q, Endpoint.Serves b (.bytes [p, q, n]) → ∃ b',
      perform d.ask s b = ((.ok (.text s!"{d.label}: {d.graduation.text n.toNat} {d.unit}"), s), b') ∧
      b'.log.toList = b.log.toList ++ [s.endpoint.opened, s.endpoint.sent (.bytes [d.askCode, 1, 0]), .receive 3]) ∧
    d.graduation.Tells n.toNat ∧
    ((∀ j : ℤ, |d.graduation.amount n.toNat - x| ≤ |d.graduation.amount j - x|) ↔ Int.fract (d.graduation.steps x) ≤ 1 / 2) := by
  obtain ⟨positive, room, tells⟩ := vaneDials_fit d member
  obtain ⟨n, small, floor, coded⟩ := code_eq_byte positive room allowed
  refine ⟨n, fun s b reply => perform_turn coded, fun s b p q => perform_ask, tells _ small, ?_⟩
  rw [← floor]
  exact d.graduation.nearest_iff positive x

theorem nearest_amount_is_sent_below_half : firstAttenuator "Attenuator RECT" ∈ vaneDials ∧
    (firstAttenuator "Attenuator RECT").isAllowed (7 / 10 : ℚ) = true ∧
    ∃ n : UInt8, ∀ j : ℤ, |halves.amount n.toNat - (7 / 10 : ℚ)| ≤ |halves.amount j - 7 / 10| := by
  have member : firstAttenuator "Attenuator RECT" ∈ vaneDials := List.mem_cons_self
  have allowed : (firstAttenuator "Attenuator RECT").isAllowed (7 / 10 : ℚ) = true := by decide +kernel
  obtain ⟨n, -, -, -, nearest⟩ := nearest_amount_is_sent_iff member allowed
  exact ⟨member, allowed, n, nearest.mpr (by decide +kernel)⟩

/-- A bridge at an address. -/
def remote : State := { mode := .live, endpoint := ⟨"192.168.2.19", 8890⟩, frequencyMin := 9000, frequencyMax := 10000 }

/-- For 0.4 dB the notice and the byte are about 0 dB, although 0.5 dB is nearer. -/
theorem lower_amount_is_sent : (firstAttenuator "Attenuator RECT").isAllowed (2 / 5 : ℚ) = true ∧
    (perform ((firstAttenuator "Attenuator RECT").take (.float 0.4)) remote {}).2.log =
      #[.message "Attenuation value is rounded to the nearest available 0.0dB", remote.endpoint.opened,
        remote.endpoint.sent (.bytes [0x15, 1, 0]), .receive 3] ∧
    |halves.amount 1 - (2 / 5 : ℚ)| < |halves.amount 0 - 2 / 5| := by
  refine ⟨by decide +kernel, ?_, by decide +kernel⟩
  rfl

end Dial

end EprBench.Bridge
