import EprBench.LockIn
import EprBench.Proofs.Doubles
import EprBench.Proofs.Line
import EprBench.Proofs.Names
import EprBench.Proofs.Quantity

/-! Time constants and sensitivities. Main statement: the value that is found is the nearest one of the whole ladder
exactly up to the middle between the first two values of the next unit. -/
namespace EprBench.LockIn

open Line Value Outcome
open Decimal (natText intText)

/-! ### Worths -/

/-- What a rung is worth in the smallest unit; each unit is a thousand times the one before. -/
def worth (units : List String) (r : Rung) : ℤ := r.1 * 1000 ^ units.idxOf r.2

/-- No rung of the ladder is nearer to so much. -/
def Nearest (l : Ladder) (units : List String) (x : ℤ) (r : Rung) : Prop :=
  ∀ e ∈ l.table, |worth units r - x| ≤ |worth units e.1 - x|

def chosen (l : Ladder) (n : ℕ) (u : String) : Rung := l.carry (l.step n) u

variable {l : Ladder} {units : List String} {n : ℕ} {u : String}

lemma worth_eq (units : List String) (k : ℤ) (u : String) : worth units (k, u) = k * worth units (1, u) := by
  rw [worth, worth, one_mul]

lemma worth_chosen (next : ∀ v, l.units.lookup u = some v → units.idxOf v = units.idxOf u + 1) (n : ℕ) :
    worth units (chosen l n u) = l.step n * worth units (1, u) := by
  rw [chosen, Ladder.carry]
  cases found : l.units.lookup u with
  | none => exact worth_eq units _ u
  | some v =>
    dsimp only
    split
    · rename_i thousand
      rw [eq_of_beq thousand, worth, worth, next v found, pow_succ]
      ring
    · exact worth_eq units _ u

lemma nearest_chosen (next : ∀ v, l.units.lookup u = some v → units.idxOf v = units.idxOf u + 1) (positive : 0 < n)
    (one : 1 ∈ l.steps) (thousand : 1000 ∈ l.steps)
    (split : ∀ e ∈ l.table, worth units e.1 ≤ worth units (1, u) ∨ (∃ k ∈ l.steps, worth units e.1 = k * worth units (1, u)) ∨
      1000 * worth units (1, u) ≤ worth units e.1 ∧ 2 * n * worth units (1, u) ≤ 1000 * worth units (1, u) + worth units e.1) :
    Nearest l units (worth units (n, u)) (chosen l n u) := by
  have unit : 0 < worth units (1, u) := by
    rw [worth, one_mul]
    positivity
  -- In steps, the choice is at least as near as each one of them.
  have best {k : ℤ} (member : k ∈ l.steps) : |(l.step n : ℤ) - n| * worth units (1, u) ≤ |k - n| * worth units (1, u) := by
    apply mul_le_mul_of_nonneg_right _ unit.le
    have := natAbs_nearestOf_le (n : ℤ) member
    rw [Int.abs_eq_natAbs, Int.abs_eq_natAbs]
    exact_mod_cast this
  intro e member
  rw [worth_chosen next, worth_eq units n u, ← sub_mul, abs_mul, abs_of_pos unit]
  generalize worth units (1, u) = w at split unit best
  rcases split e member with below | ⟨k, among, same⟩ | ⟨above, beyond⟩
  · calc |(l.step n : ℤ) - n| * w ≤ |1 - (n : ℤ)| * w := best one
      _ = n * w - w := by rw [abs_of_nonpos (by omega)]; ring
      _ ≤ n * w - worth units e.1 := by omega
      _ ≤ |worth units e.1 - n * w| := by rw [abs_sub_comm]; exact le_abs_self _
  · rw [same, ← sub_mul, abs_mul, abs_of_pos unit]
    exact best among
  · refine (best thousand).trans ?_
    rw [← abs_of_pos unit, ← abs_mul, abs_of_pos unit, sub_mul]
    refine (abs_le.mpr ⟨?_, ?_⟩).trans (le_abs_self _)
    · linarith
    · linarith

lemma nearest_top {r : Rung} {x : ℤ} (top : ∀ e ∈ l.table, worth units e.1 ≤ worth units r) (beyond : worth units r ≤ x) :
    Nearest l units x r := by
  intro e member
  have := top e member
  rw [abs_of_nonpos (by omega), abs_of_nonpos (by omega)]
  omega

lemma step_eq_thousand (below : ∀ k ∈ l.steps, k ≤ 1000) (thousand : 1000 ∈ l.steps) (many : 1000 < n) :
    l.step n = 1000 := by
  have among := below _ (nearestOf_mem (n : ℤ) (List.ne_nil_of_mem thousand))
  have near := natAbs_nearestOf_le (n : ℤ) thousand
  rw [Ladder.step]
  omega

lemma nearest_chosen_iff (next : ∀ v, l.units.lookup u = some v → units.idxOf v = units.idxOf u + 1) (positive : 0 < n)
    (one : 1 ∈ l.steps) (thousand : 1000 ∈ l.steps) (below : ∀ k ∈ l.steps, k ≤ 1000) {far : ℕ} (more : 1000 < far)
    (split : ∀ e ∈ l.table, worth units e.1 ≤ worth units (1, u) ∨ (∃ k ∈ l.steps, worth units e.1 = k * worth units (1, u)) ∨
      far * worth units (1, u) ≤ worth units e.1)
    (there : ∃ e ∈ l.table, worth units e.1 = far * worth units (1, u)) :
    Nearest l units (worth units (n, u)) (chosen l n u) ↔ 2 * n ≤ 1000 + far := by
  have unit : 0 < worth units (1, u) := by
    rw [worth, one_mul]
    positivity
  constructor
  · intro nearest
    by_contra many
    obtain ⟨e, member, same⟩ := there
    have near := nearest e member
    rw [worth_chosen next, worth_eq units n u, same, step_eq_thousand below thousand (by omega), ← sub_mul, ← sub_mul, abs_mul,
      abs_mul, mul_le_mul_iff_of_pos_right (abs_pos.mpr unit.ne')] at near
    rw [abs_of_nonpos (by omega)] at near
    rcases abs_cases ((far : ℤ) - n) with ⟨same, -⟩ | ⟨same, -⟩ <;> omega
  · intro few
    refine nearest_chosen next positive one thousand fun e member => (split e member).imp_right (.imp_right fun beyond => ?_)
    have : (1000 : ℤ) * worth units (1, u) ≤ far * worth units (1, u) := mul_le_mul_of_nonneg_right (by omega) unit.le
    have : (2 * n : ℤ) * worth units (1, u) ≤ (1000 + far) * worth units (1, u) :=
      mul_le_mul_of_nonneg_right (by omega) unit.le
    constructor <;> linarith

/-! ### Requests -/

/-- So many of a unit, as a script says it. -/
def request (n : ℕ) (u : String) : Value := .text (natText n ++ " " ++ u)

variable {p : Laddered} {s : Link} {b : Bench} {c : ℕ}

lemma pieces_request (plain : ' ' ∉ u.toList) : (request n u).pieces ' ' = .ok [natText n, u] := by
  have digits : ' ' ∉ (natText n).toList := fun member => by simpa using Decimal.digit_of_mem_natText member
  exact congrArg Except.ok (Decimal.pieces_amount digits plain)

structure OpenEnded (p : Laddered) (c : ℕ) : Prop where
  floor : p.floor = none
  ceiling : p.ceiling.1 = Decimal.ofFraction false c 1
  nonzero : c ≠ 0
  small : c < 2 ^ 53

def Exceeds (p : Laddered) (c n : ℕ) (u : String) : Bool := decide (c < n) && u == p.ceiling.2

variable (ended : OpenEnded p c)
include ended

lemma isAbove_request (positive : 0 < n) : p.isAbove [natText n, u] = .ok (Exceeds p c n u) := by
  obtain ⟨x, read, order⟩ := Decimal.lt_parseFloat?_natText ended.nonzero ended.small positive.ne'
  have real : realOfText (natText n) = .ok x := by
    rw [realOfText, read]
    rfl
  have first : pick [natText n, u] 0 = .ok (natText n) := rfl
  have second : pick [natText n, u] 1 = .ok u := rfl
  rw [Laddered.isAbove, Laddered.isBeyond, first, ok_bind, real, ok_bind, second, ok_bind,
    ended.ceiling, decide_eq_decide.mpr order, Exceeds]
  cases decide (c < n) <;> rfl

lemma take_request (positive : 0 < n) (plain : ' ' ∉ u.toList) : p.take (request n u) = (do
    if ← isLive then
      if Exceeds p c n u then
        Laddered.remarkNearest "sensitivity"
        p.sendCode p.ceilingCode
      else p.takeNearest [natText n, u]
    else if !Exceeds p c n u then p.takeNearest [natText n, u]) := by
  have below : p.isBelow [natText n, u] = .ok false := by
    rw [Laddered.isBelow, ended.floor]
  rw [Laddered.take, pieces_request plain, lift_ok_bind, below, lift_ok_bind, isAbove_request ended positive]
  refine congrArg _ (funext fun live => ?_)
  simp only [lift_ok_bind]
  cases live <;> simp

omit ended

/-! ### Sessions -/

lemma takeNearest_eq (p : Laddered) (number u : String) : p.takeNearest [number, u] = (do
    let wanted ← intOfText number
    if (p.ladder.carry (p.ladder.step wanted) u).1 != wanted then Laddered.remarkNearest p.what
    p.sendRung (p.ladder.carry (p.ladder.step wanted) u)) := by
  have first : pick [number, u] 0 = .ok number := rfl
  have second : pick [number, u] 1 = .ok u := rfl
  rw [Laddered.takeNearest, first, lift_ok_bind]
  refine congrArg _ (funext fun wanted => ?_)
  by_cases thousand : p.ladder.step wanted == 1000
  · simp only [if_pos thousand, second, lift_ok_bind, pure_bind, Option.map_some, Option.getD_some]
    cases p.remarksEarly <;> simp
  · have kept : p.ladder.carry (p.ladder.step wanted) u = (p.ladder.step wanted, u) := by
      rw [Ladder.carry]
      split
      · rw [if_neg thousand]
      · rfl
    simp only [if_neg thousand, second, lift_ok_bind, pure_bind, Option.map_none, Option.getD_none, kept]
    cases p.remarksEarly <;> simp

lemma eq_of_intOfText_natText {m : ℤ} (read : intOfText (natText n) = .ok m) : m = n := by
  rw [intOfText] at read
  cases found : Decimal.parseInt? (natText n) with
  | none =>
    rw [found] at read
    simp [orWrong] at read
  | some k =>
    rw [found] at read
    obtain rfl : k = m := Except.ok.inj read
    obtain ⟨x, parsed, value⟩ := Decimal.parseNumeral?_of_parseInt? found
    obtain ⟨y, parsed', value'⟩ := Decimal.parseNumeral?_intText n
    obtain rfl : x = y := Option.some.inj (parsed.symm.trans parsed')
    exact_mod_cast value.symm.trans value'

lemma code_of_accepted (ended : OpenEnded p c) (rehearsed : s.mode = .rehearsal) (positive : 0 < n) (plain : ' ' ∉ u.toList)
    (within : Exceeds p c n u = false) (accepted : EprBench.answer (p.take (request n u)) s b = .ok ()) :
    intOfText (natText n) = .ok (n : ℤ) ∧ ∃ code, p.ladder.code? (chosen p.ladder n u) = some code := by
  have asked {α : Type} (f : Bool → Act Link α) : perform (isLive >>= f) s b = perform (f false) s b := by
    have mode : perform isLive s b = ((.ok (s.mode == .live), s), b) := rfl
    rw [perform_bind, mode, rehearsed]
    rfl
  have remarked (what : String) (f : Unit → Act Link Unit) :
      perform (Laddered.remarkNearest what >>= f) s b = perform (f ()) s b := by
    rw [Laddered.remarkNearest, remark, bind_assoc, asked]
    rfl
  rw [EprBench.answer, take_request ended positive plain, asked, within, if_neg (by decide), Bool.not_false, if_pos rfl,
    takeNearest_eq] at accepted
  cases read : intOfText (natText n) with
  | error e =>
    rw [read, perform_bind] at accepted
    simp at accepted
  | ok m =>
    obtain rfl := eq_of_intOfText_natText read
    refine ⟨rfl, ?_⟩
    rw [read, lift_ok_bind] at accepted
    have sent : (perform (p.sendRung (chosen p.ladder n u)) s b).1.1 = .ok () := by
      split at accepted
      · rw [remarked] at accepted
        exact accepted
      · exact accepted
    cases coded : p.ladder.code? (chosen p.ladder n u) with
    | some code => exact ⟨code, rfl⟩
    | none =>
      rw [Laddered.sendRung, coded] at sent
      dsimp only at sent
      rw [refuse, asked] at sent
      simp at sent

/-- What a session sends, after messages only. -/
def Sends (p : Laddered) (n : ℕ) (u : String) (code : ℤ) : Prop :=
  ∀ ⦃s : Link⦄ ⦃b : Bench⦄, Connected s → b.mode = .live → b.Accepts → ∃ b' notes, (∀ e ∈ notes, ∃ t, e = .message t) ∧
    perform (p.take (request n u)) s b = ((.ok (), s), b') ∧
    b'.log.toList = b.log.toList ++ notes ++ [.write (.text s!"{p.word} {intText code}")]

lemma perform_sendCode (here : Connected s) (accepts : b.Accepts) (code : ℤ) : perform (p.sendCode code) s b =
    ((.ok (), s), b.written (.write (.text s!"{p.word} {intText code}"))) := by
  rw [Laddered.sendCode, Line.tell, here.perform_isLive_bind, if_pos rfl, here.perform_send accepts]
  rfl

lemma perform_remarkNearest_bind (here : Connected s) (live : b.mode = .live) (what : String) (f : Unit → Act Link Unit) :
    ∃ t, perform (Laddered.remarkNearest what >>= f) s b = perform (f ()) s (b.noted (.message t)) := by
  refine ⟨s!"Desired {what} cannot be set, the nearest available value is used", ?_⟩
  rw [Laddered.remarkNearest, remark, bind_assoc, here.perform_isLive_bind, if_pos rfl, perform_bind, perform_work,
    Bench.carry_message live, proceed_ok]

lemma sends_chosen (ended : OpenEnded p c) (positive : 0 < n) (plain : ' ' ∉ u.toList) (within : Exceeds p c n u = false)
    (read : intOfText (natText n) = .ok (n : ℤ)) {code : ℤ} (coded : p.ladder.code? (chosen p.ladder n u) = some code) :
    Sends p n u code := by
  intro s b here live accepts
  have sent {b : Bench} (accepts : b.Accepts) : perform (p.sendRung (chosen p.ladder n u)) s b =
      ((.ok (), s), b.written (.write (.text s!"{p.word} {intText code}"))) := by
    rw [Laddered.sendRung, coded]
    exact perform_sendCode here accepts code
  rw [take_request ended positive plain, here.perform_isLive_bind, if_pos rfl, within, if_neg (by decide), takeNearest_eq, read,
    lift_ok_bind]
  split
  · obtain ⟨t, told⟩ := perform_remarkNearest_bind here live p.what fun _ => p.sendRung (chosen p.ladder n u)
    exact ⟨_, [.message t], by simp, told.trans (sent (accepts.noted _)), by simp [Bench.written, Bench.noted]⟩
  · exact ⟨_, [], by simp, sent accepts, by simp [Bench.written]⟩

lemma sends_ceiling (ended : OpenEnded p c) (positive : 0 < n) (plain : ' ' ∉ u.toList) (beyond : Exceeds p c n u = true) :
    Sends p n u p.ceilingCode := by
  intro s b here live accepts
  rw [take_request ended positive plain, here.perform_isLive_bind, if_pos rfl, beyond, if_pos rfl]
  obtain ⟨t, told⟩ := perform_remarkNearest_bind here live "sensitivity" fun _ => p.sendCode p.ceilingCode
  exact ⟨_, [.message t], by simp, told.trans (perform_sendCode here (accepts.noted _) _), by simp [Bench.written, Bench.noted]⟩

/-- The question for a value that has this code is answered with the rung. -/
def Tells (p : Laddered) (code : ℤ) (r : Rung) : Prop :=
  ∀ ⦃s : Link⦄ ⦃b : Bench⦄ ⦃v : Value⦄, EprBench.answer (query (.text s!"{p.word}?")) s b = .ok v → v.toInt = .ok code →
    EprBench.answer p.ask s b = .ok (.text (Ladder.rungText r))

lemma tells_of_find {code : ℤ} {r : Rung} (found : p.ladder.table.find? (·.2 == code) = some (r, code)) : Tells p code r := by
  intro s b v asked read
  have told : p.ladder.nameOfCode code = .text (Ladder.rungText r) := by
    rw [Ladder.nameOfCode, found]
  rw [EprBench.answer, Laddered.ask, askInt, bind_assoc, perform_bind, perform_of_answer asked, proceed_ok, perform_bind,
    perform_lift, read, proceed_ok, told]
  rfl

/-! ### The lock-in -/

def timeScale : List String := ["us", "ms", "s", "ks"]

def voltScale : List String := ["nV", "uV", "mV", "V"]

/-- A request sets a value of the ladder, which is told when it is asked for, and which is a nearest one exactly if `near`. -/
def Settles (p : Laddered) (units : List String) (n : ℕ) (u : String) (near : Prop) : Prop :=
  ∃ r code, (r, code) ∈ p.ladder.table ∧ Sends p n u code ∧ Tells p code r ∧
    (Nearest p.ladder units (worth units (n, u)) r ↔ near)

lemma mem_of_code? {code : ℤ} {r : Rung} (coded : l.code? r = some code) : (r, code) ∈ l.table := by
  obtain ⟨⟨r', code'⟩, found, rfl⟩ := Option.map_eq_some_iff.mp coded
  obtain rfl : r' = r := by simpa using List.find?_some found
  exact List.mem_of_find?_eq_some found

structure Spread (p : Laddered) (c far : ℕ) (units ends : List String) : Prop extends OpenEnded p c where
  plain : ∀ u ∈ units, ' ' ∉ u.toList := by decide +kernel
  distinct : ∀ e ∈ p.ladder.table, p.ladder.table.find? (·.2 == e.2) = some e := by decide +kernel
  highest : (((c : ℤ), p.ceiling.2), p.ceilingCode) ∈ p.ladder.table := by decide +kernel
  greatest : ∀ e ∈ p.ladder.table, worth units e.1 ≤ worth units (c, p.ceiling.2) := by decide +kernel
  last : p.ceiling.2 ∈ ends := by decide +kernel
  next : ∀ u ∈ units, ∀ v ∈ p.ladder.units.lookup u, units.idxOf v = units.idxOf u + 1 := by decide +kernel
  one : 1 ∈ p.ladder.steps := by decide +kernel
  thousand : 1000 ∈ p.ladder.steps := by decide +kernel
  below : ∀ k ∈ p.ladder.steps, k ≤ 1000 := by decide +kernel
  more : 1000 < far := by decide +kernel
  full : ∀ u ∈ ends, ∀ e ∈ p.ladder.table,
    worth units e.1 ≤ worth units (1, u) ∨ ∃ k ∈ p.ladder.steps, worth units e.1 = k * worth units (1, u) := by
      decide +kernel
  gap : ∀ u ∈ units, u ∉ ends → ∀ e ∈ p.ladder.table, worth units e.1 ≤ worth units (1, u) ∨
    (∃ k ∈ p.ladder.steps, worth units e.1 = k * worth units (1, u)) ∨ far * worth units (1, u) ≤ worth units e.1 := by
      decide +kernel
  past : ∀ u ∈ units, u ∉ ends → ∃ e ∈ p.ladder.table, worth units e.1 = far * worth units (1, u) := by
      decide +kernel

lemma Spread.nearest_chosen_iff {far : ℕ} {ends : List String} (spread : Spread p c far units ends) (member : u ∈ units)
    (positive : 0 < n) : Nearest p.ladder units (worth units (n, u)) (chosen p.ladder n u) ↔ 2 * n ≤ 1000 + far ∨ u ∈ ends := by
  by_cases final : u ∈ ends
  · have near := nearest_chosen (spread.next u member) positive spread.one spread.thousand
      fun e entry => (spread.full u final e entry).imp_right .inl
    exact iff_of_true near (.inr final)
  · rw [LockIn.nearest_chosen_iff (spread.next u member) positive spread.one spread.thousand spread.below spread.more
      (spread.gap u member final) (spread.past u member final), or_iff_left final]

lemma Spread.settles {far : ℕ} {ends : List String} (spread : Spread p c far units ends) (member : u ∈ units)
    (rehearsed : s.mode = .rehearsal) (positive : 0 < n) (accepted : EprBench.answer (p.take (request n u)) s b = .ok ()) :
    Settles p units n u (2 * n ≤ 1000 + far ∨ u ∈ ends) := by
  have ended := spread.toOpenEnded
  have plain := spread.plain u member
  cases exceeds : Exceeds p c n u with
  | true =>
    obtain ⟨many, rfl⟩ : c < n ∧ u = p.ceiling.2 := by simpa [Exceeds] using exceeds
    have beyond : worth units (c, p.ceiling.2) ≤ worth units (n, p.ceiling.2) := by
      exact mul_le_mul_of_nonneg_right (Int.ofNat_le.mpr many.le) (by positivity)
    exact ⟨_, _, spread.highest, sends_ceiling ended positive plain exceeds, tells_of_find (spread.distinct _ spread.highest),
      iff_of_true (nearest_top spread.greatest beyond) (.inr spread.last)⟩
  | false =>
    obtain ⟨read, code, coded⟩ := code_of_accepted ended rehearsed positive plain exceeds accepted
    have entry := mem_of_code? coded
    exact ⟨_, code, entry, sends_chosen ended positive plain exceeds read coded, tells_of_find (spread.distinct _ entry),
      spread.nearest_chosen_iff member positive⟩

lemma spread_timeConstant : Spread sr860.timeConstant 30 3000 timeScale ["ks"] where
  toOpenEnded := ⟨rfl, rfl, by decide, by decide⟩

lemma spread_sensitivity : Spread sr860.sensitivity 1 2000 voltScale ["mV", "V"] where
  toOpenEnded := ⟨rfl, rfl, by decide, by decide⟩

/-- Each request that a rehearsal accepts sets a value of the ladder. It is a nearest one up to two thousand (for the
sensitivity, fifteen hundred) of a unit, and in the units after which no further value comes. -/
theorem nearest_value_is_set_iff (positive : 0 < n) (rehearsed : s.mode = .rehearsal) :
    (∀ u ∈ timeScale, EprBench.answer (sr860.timeConstant.take (request n u)) s b = .ok () →
      Settles sr860.timeConstant timeScale n u (n ≤ 2000 ∨ u = "ks")) ∧
    (∀ u ∈ voltScale, EprBench.answer (sr860.sensitivity.take (request n u)) s b = .ok () →
      Settles sr860.sensitivity voltScale n u (n ≤ 1500 ∨ u = "mV" ∨ u = "V")) := by
  constructor
  · intro u member accepted
    have near : (2 * n ≤ 1000 + 3000 ∨ u ∈ ["ks"]) = (n ≤ 2000 ∨ u = "ks") := by
      rw [List.mem_singleton]
      exact congrArg (· ∨ _) (propext (by omega))
    exact near ▸ spread_timeConstant.settles member rehearsed positive accepted
  · intro u member accepted
    have near : (2 * n ≤ 1000 + 2000 ∨ u ∈ ["mV", "V"]) = (n ≤ 1500 ∨ u = "mV" ∨ u = "V") := by
      rw [List.mem_pair]
      exact congrArg (· ∨ _) (propext (by omega))
    exact near ▸ spread_sensitivity.settles member rehearsed positive accepted

/-- A rehearsal on a fresh line. -/
def practice : Link where
  mode := .rehearsal
  line := ⟨"SR860", "gpib", 1000, 0, 9, "", 9600, 8, "none", 1, "\n", "\n", ""⟩

theorem nearest_values_of_1700 : EprBench.answer (sr860.timeConstant.take (request 1700 "us")) practice {} = .ok () ∧
    Settles sr860.timeConstant timeScale 1700 "us" (1700 ≤ 2000 ∨ "us" = "ks") ∧
    EprBench.answer (sr860.sensitivity.take (request 1700 "mV")) practice {} = .ok () ∧
    Settles sr860.sensitivity voltScale 1700 "mV" (1700 ≤ 1500 ∨ "mV" = "mV" ∨ "mV" = "V") := by
  have time : EprBench.answer (sr860.timeConstant.take (request 1700 "us")) practice {} = .ok () := rfl
  have volt : EprBench.answer (sr860.sensitivity.take (request 1700 "mV")) practice {} = .ok () := rfl
  have all := nearest_value_is_set_iff (n := 1700) (s := practice) (b := {}) (by decide) rfl
  exact ⟨time, all.1 "us" (by decide) time, volt, all.2 "mV" (by decide) volt⟩

/-- A time constant of 5000 µs is set to 1 ms, though there is one of 3 ms. -/
theorem one_ms_is_set_for_5000_us :
    EprBench.answer (sr860.timeConstant.take (request 5000 "us")) practice {} = .ok () ∧
    Sends sr860.timeConstant 5000 "us" 6 ∧ Tells sr860.timeConstant 6 (1, "ms") ∧
    ((3, "ms"), 7) ∈ sr860.timeConstant.ladder.table ∧
    |worth timeScale (3, "ms") - worth timeScale (5000, "us")| < |worth timeScale (1, "ms") - worth timeScale (5000, "us")| := by
  have sent : Sends sr860.timeConstant 5000 "us" 6 :=
    sends_chosen spread_timeConstant.toOpenEnded (by decide) (by decide) (by decide) rfl rfl
  exact ⟨rfl, sent, tells_of_find rfl, by decide, by decide⟩

end EprBench.LockIn
