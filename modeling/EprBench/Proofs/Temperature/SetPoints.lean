import EprBench.Proofs.Line
import EprBench.Proofs.Names
import EprBench.Proofs.Quantity
import EprBench.Temperature.Termodat

/-! Set points. Main statement: one comes back as it was rounded exactly if its number of tenths is even. -/
namespace EprBench.Temperature.Termodat

open Line Quantity Value

/-! ### Tenths -/

def tenths (t : ℚ) : ℤ := nearestWhole (t * 10)

lemma rounded_one (t : ℚ) : Quantity.rounded 1 t = (tenths t : ℚ) / 10 := by
  change (nearestWhole (t * 10 ^ 1) : ℚ) / 10 ^ 1 = tenths t / 10
  rw [tenths, pow_one]

lemma tenth_inj {m n : ℤ} : (m : ℚ) / 10 = n / 10 ↔ m = n := by
  rw [div_left_inj' (by norm_num), Int.cast_inj]

lemma toDegrees_eq (t : ℚ) : toDegrees t = ((tenths t - 2731 : ℤ) : ℚ) / 10 := by
  rw [toDegrees, rounded_one, decimal_eq]
  push_cast
  ring

lemma setPointOf_tenth (r : ℤ) :
    setPointOf ((r : ℚ) / 10) = ((if r % 2 = 0 then r + 2732 else r + 2731 : ℤ) : ℚ) / 10 := by
  have middle : ((r : ℚ) / 10 + decimal 27315 2) * 10 = ((r + 2731 : ℤ) : ℚ) + 1 / 2 := by
    rw [decimal_eq]
    push_cast
    ring
  rw [setPointOf, rounded_one, tenths, middle, nearestWhole_add_half, tenth_inj]
  split <;> split <;> omega

lemma measured_tenth {c : ℕ} (later : c ≠ 1) (r : ℤ) : measured c ((r : ℚ) / 10) = ((r + 2731 : ℤ) : ℚ) / 10 := by
  have whole : ((r : ℚ) / 10 + decimal 2731 1) * 10 = ((r + 2731 : ℤ) : ℚ) := by
    rw [decimal_eq]
    push_cast
    ring
  rw [measured, if_neg later, rounded_one, tenths, whole, nearestWhole_intCast]

lemma setPointOf_toDegrees (t : ℚ) : setPointOf (toDegrees t) = Quantity.rounded 1 t ↔ Even (tenths t) := by
  rw [toDegrees_eq, setPointOf_tenth, rounded_one, tenth_inj, Int.even_iff]
  split <;> omega

lemma measured_eq_setPointOf (c : ℕ) (r : ℤ) :
    measured c ((r : ℚ) / 10) = setPointOf ((r : ℚ) / 10) ↔ c = 1 ∨ Odd r := by
  by_cases first : c = 1
  · subst first
    exact iff_of_true rfl (.inl rfl)
  · rw [measured_tenth first, setPointOf_tenth, tenth_inj, Int.odd_iff, or_iff_right first]
    split <;> omega

lemma tenths_bounds {t : ℚ} (allowed : isAllowed t = true) : 3 ≤ tenths t ∧ tenths t ≤ 7500 := by
  simp only [isAllowed, Bool.and_eq_true, le_eq, decide_eq_true_eq, ofInt_eq, decimal_eq] at allowed
  obtain ⟨high, low⟩ := allowed
  push_cast at high low
  constructor
  · apply le_nearestWhole
    push_cast
    linarith
  · apply nearestWhole_le
    push_cast
    linarith

/-! ### Registers -/

def signedWrite (register : Value) (degrees : Float) : Event :=
  .modbus "write_register" [register, .float degrees, 1] [("functioncode", .int 6), ("signed", .bool true)]

def signedRead (register : Value) : Event := .modbus "read_register" [register, 1] [("signed", .bool true)]

/-- In a session with that channel in use, a call that gets this reply answers `a` after these events. -/
def Exchanges (c : ℕ) (x : Act Controller Value) (reply : Value) (events : List Event) (a : Value) : Prop :=
  ∀ ⦃s : Controller⦄ ⦃b : Bench⦄, Connected s → c ≤ s.inUse → b.Replies reply →
    ∃ b', perform x s b = ((.ok a, s), b') ∧ b'.log.toList = b.log.toList ++ events

variable {m : Model} {c : ℕ} {channel reply : Value} {d : Float}

lemma perform_inUse {name wrong : String} {s : Controller} {b : Bench} (known : m.channel? name = some c)
    (used : c ≤ s.inUse) : perform (m.inUse name wrong) s b = ((.ok c, s), b) := by
  rw [Model.inUse, known]
  dsimp only
  rw [perform_get_bind, if_pos used]
  rfl

lemma exchanges_setPoint (known : m.channel? channel.display = some c) {v : Value} {t : Float} (given : v.toReal = .ok t)
    (allowed : isAllowed (Decimal.roundPlaces t 1) = true) (reply : Value) :
    Exchanges c (m.setPoint [channel, v]) reply [signedWrite (registerOf 369 c) (toDegrees t)] .nothing := by
  intro s b here used replies
  have told := here.perform_writeRegister replies (registerOf 369 c) (.float (toDegrees t)) 1 6 true
  refine ⟨(b.noted (signedWrite (registerOf 369 c) (toDegrees t))).heard, ?_, Array.toList_push⟩
  rw [Model.setPoint, perform_bind, perform_lift, given, proceed_ok, here.perform_isLive_bind, if_pos rfl, allowed,
    if_neg (by decide), perform_bind, perform_inUse known used, proceed_ok, silent, perform_bind, told]
  rfl

lemma exchanges_readSigned (register : Value) (read : reply.toReal = .ok d) (convert : Float → Float) :
    Exchanges c (do return .float (convert (← (← m.readSigned register 1).toReal))) reply
      (signedRead register :: m.pause.toList.map .sleep) (.float (convert d)) := by
  intro s b here used replies
  have told := here.perform_readRegister replies register 1 true
  have rested (b : Bench) : perform m.pauseAfter s b = ((.ok (), s),
    (m.pause.toList.map .sleep).foldl (fun b e => b.noted e) b) := by
    rw [Model.pauseAfter]
    cases m.pause with
    | none => rfl
    | some seconds => rfl
  refine ⟨(m.pause.toList.map .sleep).foldl (fun b e => b.noted e) (b.noted (signedRead register)).heard, ?_, ?_⟩
  · rw [Model.readSigned, bind_assoc, perform_bind, told, proceed_ok, bind_assoc, perform_bind, rested, proceed_ok, pure_bind,
      perform_bind, perform_lift, read]
    rfl
  · cases m.pause with
    | none => exact Array.toList_push
    | some seconds => simp [Bench.noted, Bench.heard]

lemma exchanges_askSetPoint (known : m.channel? channel.display = some c) (read : reply.toReal = .ok d) :
    Exchanges c (m.setPoint [channel]) reply (signedRead (registerOf 369 c) :: m.pause.toList.map .sleep)
      (.float (setPointOf d)) := by
  intro s b here used replies
  obtain ⟨b', told, log⟩ := exchanges_readSigned (m := m) (registerOf 369 c) read setPointOf here used replies
  refine ⟨b', ?_, log⟩
  rw [Model.setPoint, perform_bind, perform_inUse known used, proceed_ok, here.perform_answer]
  exact told

lemma exchanges_temperature (known : channel.choice m.names = .ok (some c)) (read : reply.toReal = .ok d) :
    Exchanges c (m.reading m.askTemperature 300 channel) reply (signedRead (registerOf 368 c) :: m.pause.toList.map .sleep)
      (.float (measured c d)) := by
  intro s b here used replies
  obtain ⟨b', told, log⟩ := exchanges_readSigned (m := m) (registerOf 368 c) read (measured c) here used replies
  refine ⟨b', ?_, log⟩
  rw [Model.reading, perform_bind, perform_lift, known, proceed_ok, here.perform_answer]
  exact told

/-- **Set points.** In each channel the set point goes into a register as a number of tenths of a degree and is read from
there with another zero. It comes back as it was rounded if the number of tenths is even, and only then. The temperature of
the first channel is read with the same zero as the set point; in the other channels, two equal registers mean equal
temperatures only if they hold an odd number of tenths. -/
theorem set_point_comes_back_iff (low : 1 ≤ c) (high : c ≤ 4) :
    (∀ t reply, isAllowed (Decimal.roundPlaces t 1) = true →
      Exchanges c (termodat11.setPoint [.text (Decimal.natText c), .float t]) reply
        [signedWrite (registerOf 369 c) (toDegrees t)] .nothing) ∧ (∀ reply d, reply.toReal = .ok d →
      Exchanges c (termodat11.setPoint [.text (Decimal.natText c)]) reply
        [signedRead (registerOf 369 c), .sleep 0.01] (.float (setPointOf d)) ∧
      Exchanges c (termodat11.reading termodat11.askTemperature 300 (.text (Decimal.natText c))) reply
        [signedRead (registerOf 368 c), .sleep 0.01] (.float (measured c d))) ∧ (∀ t : ℚ, isAllowed t = true →
      (∃ r : ℤ, toDegrees t = r / 10 ∧ -32768 ≤ r ∧ r ≤ 32767) ∧
      (setPointOf (toDegrees t) = Quantity.rounded 1 t ↔ Even (tenths t))) ∧
    ∀ r : ℤ, measured c ((r : ℚ) / 10) = setPointOf ((r : ℚ) / 10) ↔ c = 1 ∨ Odd r := by
  have known : termodat11.channel? (Decimal.natText c) = some c := by
    interval_cases c <;> rfl
  have chosen : (Value.text (Decimal.natText c)).choice termodat11.names = .ok (some c) := by
    rw [choice_text]
    exact congrArg Except.ok known
  refine ⟨fun t reply allowed => exchanges_setPoint known rfl allowed reply, ?_, ?_, measured_eq_setPointOf c⟩
  · intro reply d read
    exact ⟨exchanges_askSetPoint known read, exchanges_temperature chosen read⟩
  · intro t allowed
    have bounds := tenths_bounds allowed
    exact ⟨⟨tenths t - 2731, toDegrees_eq t, by omega, by omega⟩, setPointOf_toDegrees t⟩

theorem even_tenths_come_back : isAllowed (3006 / 10 : ℚ) = true ∧
    setPointOf (toDegrees (3006 / 10)) = Quantity.rounded 1 (3006 / 10 : ℚ) ∧
    measured 2 (((275 : ℤ) : ℚ) / 10) = setPointOf (((275 : ℤ) : ℚ) / 10) := by
  have allowed : isAllowed (3006 / 10 : ℚ) = true := by decide +kernel
  have all := set_point_comes_back_iff (c := 2) (by decide) (by decide)
  have even : Even (tenths (3006 / 10)) := by decide +kernel
  exact ⟨allowed, (all.2.2.1 _ allowed).2.mpr even, (all.2.2.2 275).mpr (.inr (by decide))⟩

/-- A set point of 300.7 K comes back as 300.8 K, also with the rounding of doubles. -/
theorem odd_tenths_go_up : setPointOf (toDegrees (3007 / 10)) = (3008 / 10 : ℚ) ∧
    measured 2 (toDegrees (3007 / 10)) = (3007 / 10 : ℚ) ∧
    setPointOf (27.6 : Float) = 300.8 ∧ measured 2 (27.6 : Float) = 300.7 := by
  refine ⟨by decide +kernel, by decide +kernel, ?_, ?_⟩
  · rfl
  · rfl

end EprBench.Temperature.Termodat
