import EprBench.Proofs.Pulser.Times

/-! The row of a pulse by its own times. A pulse has its own row, whatever the other pulses are, exactly if its times
are such that they can be read there. -/
namespace EprBench.Pulser

open Device List Outcome

variable {mode : Mode} {qs : List Pulse} {rows : List Row}

structure HalfTicks (c : Config) : Prop where
  timebase : c.timebase = 2
  shift : c.constantShift = 125
  lead : ∃ d, c.windowLead = 2 * d
  tail : ∃ d, c.windowTail = 2 * d

def startMove (c : Config) (q : Pulse) : ℤ := if isWindowed q.channel then -c.windowLead else 0

def lengthMove (c : Config) (q : Pulse) : ℤ := if isWindowed q.channel then c.windowLead + c.windowTail else 0

/-- The row that belongs to the channel, the start and the length of a pulse. -/
structure OwnRow (c : Config) (q : Pulse) (r : Row) : Prop where
  channel : ∃ n, q.channel.find c.channels = .ok (some n) ∧ r.channel = 2 ^ n
  times : ∃ x y : ℚ, nanoseconds ℚ q.start = .ok x ∧ nanoseconds ℚ q.length = .ok y ∧
    (r.start : ℚ) = 125 + (x + startMove c q) / 2 ∧
    (r.stop : ℚ) = 125 + (x + startMove c q + (y + lengthMove c q)) / 2

variable {c : Config} {q : Pulse}

lemma OwnRow.unique {r s : Row} (own : OwnRow c q r) (own' : OwnRow c q s) : r = s := by
  obtain ⟨⟨n, found, channel⟩, x, y, start, length, first, last⟩ := own
  obtain ⟨⟨n', found', channel'⟩, x', y', start', length', first', last'⟩ := own'
  obtain rfl : n = n' := by simpa [found] using found'
  obtain rfl : x = x' := by simpa [start] using start'
  obtain rfl : y = y' := by simpa [length] using length'
  rcases r with ⟨_, _, _⟩
  rcases s with ⟨_, _, _⟩
  simp only [Row.mk.injEq]
  exact ⟨channel.trans channel'.symm, by exact_mod_cast first.trans first'.symm, by exact_mod_cast last.trans last'.symm⟩

/-- A pulse whose times can be read where it becomes a row. The window of a generator pulse is computed in whole numbers;
any other start and length has to be plain. The steps of a pulse may also be passed over. -/
structure Legible (q : Pulse) : Prop where
  times : if isWindowed q.channel then (∃ n, wholeTime q.start = .ok n) ∧ ∃ n, wholeTime q.length = .ok n
    else Plain q.start ∧ Plain q.length
  moves : Plain q.deltaStart ∨ Unmarked q.deltaStart
  grows : Plain q.lengthIncrement ∨ Unmarked q.lengthIncrement

/-- A legible pulse whose row has room in 64 bits. -/
structure Clear (c : Config) (q : Pulse) : Prop extends Legible q where
  room : ∀ r, OwnRow c q r → fits r.start = true ∧ fits r.stop = true

/-! ### Accepted pulses -/

/-- What is known of a pulse that was accepted: all its times are even, and its channel is known. -/
structure Accepted (c : Config) (q : Pulse) (n : Nat) (start length move growth : ℤ) : Prop where
  channel : q.channel.find c.channels = .ok (some n)
  start : nanoseconds ℚ q.start = .ok (2 * start)
  length : nanoseconds ℚ q.length = .ok (2 * length)
  moves : nanoseconds ℚ q.deltaStart = .ok (2 * move)
  grows : nanoseconds ℚ q.lengthIncrement = .ok (2 * growth)

lemma even_of_checked {v : Value} {reason : String} {rest : ℚ → Outcome Unit}
    (checked : (do
      let x ← nanoseconds ℚ v
      ensure (Timescale.isEven x) reason
      rest x : Outcome Unit) = .ok ()) : ∃ m : ℤ, nanoseconds ℚ v = .ok (2 * m) := by
  obtain ⟨x, read, checked⟩ := bind_eq_ok.mp checked
  obtain ⟨_, even, -⟩ := bind_eq_ok.mp checked
  obtain ⟨m, rfl⟩ := isEven_iff.mp (ensure_eq_ok.mp even)
  exact ⟨m, read⟩

lemma accepted_of_checkPulse (checked : checkPulse ℚ c q = .ok ()) :
    ∃ n start length move growth, Accepted c q n start length move growth := by
  obtain ⟨_, length, checked⟩ := bind_eq_ok.mp checked
  obtain ⟨_, start, checked⟩ := bind_eq_ok.mp checked
  obtain ⟨_, moves, checked⟩ := bind_eq_ok.mp checked
  obtain ⟨_, grows, checked⟩ := bind_eq_ok.mp checked
  obtain ⟨found, channel, checked⟩ := bind_eq_ok.mp checked
  obtain ⟨l, length⟩ := even_of_checked length
  obtain ⟨a, start⟩ := even_of_checked start
  obtain ⟨d, moves⟩ := even_of_checked moves
  obtain ⟨e, grows⟩ := even_of_checked grows
  cases found with
  | none => simp at checked
  | some n => exact ⟨n, a, l, d, e, channel, start, length, moves, grows⟩

/-! ### Reading an accepted pulse -/

section

variable {c : Config} {q : Pulse} {n : Nat} {start length move growth : ℤ}

lemma ticksOf_moved (half : HalfTicks c) (mode : Mode) {v : Value} {m d : ℤ} (whole : ∃ n, wholeTime v = .ok n)
    (read : nanoseconds ℚ v = .ok (2 * m)) :
    (do return .text (← moved mode v (.int (2 * d))) : Outcome Value) >>= ticksOf ℚ c = .ok (some (m + d)) := by
  obtain ⟨n, whole⟩ := whole
  have value : (n : ℚ) = 2 * m := Except.ok.inj ((nanoseconds_of_wholeTime whole).symm.trans read)
  obtain rfl : n = 2 * m := by exact_mod_cast value
  rw [moved_of_wholeTime mode whole, ← mul_add, ok_bind, pure_bind]
  exact ticksOf_inNanoseconds half.timebase (m + d)

lemma reading_of_legible (half : HalfTicks c) (mode : Mode) (accepted : Accepted c q n start length move growth)
    (legible : Legible q) : ∃ a l, Reading ℚ c mode (.ofPulse q) q.channel (some n) (some a) (some l) ∧
      2 * a = 2 * start + startMove c q ∧ 2 * l = 2 * length + lengthMove c q := by
  have moves := (readable_iff half.timebase accepted.moves).mpr legible.moves
  have grows := (readable_iff half.timebase accepted.grows).mpr legible.grows
  have times := legible.times
  cases windowed : isWindowed q.channel with
  | false =>
    rw [windowed, if_neg (by decide)] at times
    have first := ticksOf_plain half.timebase accepted.start rfl times.1
    have last := ticksOf_plain half.timebase accepted.length rfl times.2
    refine ⟨start, length, ⟨rfl, accepted.channel, ?_, ?_, moves, grows⟩, ?_, ?_⟩
    · rw [windowed]
      exact first
    · rw [windowed]
      exact last
    · simp [startMove, windowed]
    · simp [lengthMove, windowed]
  | true =>
    rw [windowed, if_pos rfl] at times
    obtain ⟨lead, hlead⟩ := half.lead
    obtain ⟨tail, htail⟩ := half.tail
    have first := ticksOf_moved half mode (d := -lead) times.1 accepted.start
    have last := ticksOf_moved half mode (d := lead + tail) times.2 accepted.length
    refine ⟨start + -lead, length + (lead + tail), ⟨rfl, accepted.channel, ?_, ?_, moves, grows⟩, ?_, ?_⟩
    · rw [windowed, ← first, mul_neg, ← hlead]
      rfl
    · rw [windowed, ← last, mul_add, ← hlead, ← htail]
      rfl
    · simp only [startMove, windowed, if_true, hlead]
      ring
    · simp only [lengthMove, windowed, if_true, hlead, htail]
      ring

lemma legible_of_reading (half : HalfTicks c) (accepted : Accepted c q n start length move growth)
    {name : Value} {channel : Option Nat} {a l : ℤ}
    (reading : Reading ℚ c mode (.ofPulse q) name channel (some a) (some l)) : Legible q := by
  obtain ⟨named, -, starts, lasts, moves, grows⟩ := reading
  obtain rfl : q.channel = name := Except.ok.inj named
  refine ⟨?_, (readable_iff half.timebase accepted.moves).mp moves, (readable_iff half.timebase accepted.grows).mp grows⟩
  cases windowed : isWindowed q.channel with
  | false =>
    rw [windowed] at starts lasts
    exact ⟨plain_of_ticks accepted.start starts, plain_of_ticks accepted.length lasts⟩
  | true =>
    rw [windowed] at starts lasts
    have whole : ∀ {v : Value} {d : ℤ} {t : Option ℤ},
        (do return .text (← moved mode v (.int d)) : Outcome Value) >>= ticksOf ℚ c = .ok t → ∃ n, wholeTime v = .ok n := by
      intro v d t done
      obtain ⟨_, made, -⟩ := bind_eq_ok.mp done
      obtain ⟨text, made, -⟩ := bind_eq_ok.mp made
      obtain ⟨n, whole, -⟩ := moved_eq made
      exact ⟨n, whole⟩
    exact ⟨whole starts, whole lasts⟩

lemma ownRow_of_ticks (half : HalfTicks c) (accepted : Accepted c q n start length move growth) {a l : ℤ}
    (first : 2 * a = 2 * start + startMove c q) (last : 2 * l = 2 * length + lengthMove c q) :
    OwnRow c q ⟨twoTo n, a + c.constantShift, c.constantShift + a + l⟩ := by
  have first' : (2 * a : ℚ) = 2 * start + startMove c q := by exact_mod_cast first
  have last' : (2 * l : ℚ) = 2 * length + lengthMove c q := by exact_mod_cast last
  refine ⟨⟨n, accepted.channel, ?_⟩, _, _, accepted.start, accepted.length, ?_, ?_⟩
  · show ((twoTo n : Nat) : ℤ) = 2 ^ n
    rw [twoTo]
    rfl
  · rw [half.shift]
    push_cast
    linarith
  · rw [half.shift]
    push_cast
    linarith

end

/-! ### Lists of pulses -/

/-- Pulses that were accepted and are clear. -/
def Fine (c : Config) (qs : List Pulse) : Prop := ∀ q ∈ qs, checkPulse ℚ c q = .ok () ∧ Clear c q

lemma convert_of_legible (half : HalfTicks c) (mode : Mode) (checked : checkPulse ℚ c q = .ok ())
    (legible : Legible q) (s : Carry) : ∃ r t, carry (convert ℚ c mode (.ofPulse q)) s = (.ok r, t) ∧ OwnRow c q r := by
  obtain ⟨n, start, length, move, growth, accepted⟩ := accepted_of_checkPulse checked
  obtain ⟨a, l, reading, first, last⟩ := reading_of_legible half mode accepted legible
  exact ⟨_, _, convert_ok.mpr ⟨_, _, _, _, reading, rfl, rfl⟩, ownRow_of_ticks half accepted first last⟩

lemma ownRow_of_convert (half : HalfTicks c) (checked : checkPulse ℚ c q = .ok ())
    (legible : Legible q) {s t : Carry} {r : Row} (made : carry (convert ℚ c mode (.ofPulse q)) s = (.ok r, t)) :
    OwnRow c q r := by
  obtain ⟨r', t', made', own⟩ := convert_of_legible half mode checked legible s
  obtain ⟨rfl, -⟩ : r = r' ∧ t = t' := by simpa [made] using made'
  exact own

lemma converted_of_fine (half : HalfTicks c) (mode : Mode) (fine : Fine c qs) (s : Carry) :
    ∃ rows t, Converted ℚ c mode s (qs.map .ofPulse) rows t ∧ Forall₂ (OwnRow c) qs rows := by
  induction qs generalizing s with
  | nil => exact ⟨[], s, .nil s, .nil⟩
  | cons q qs ih =>
    obtain ⟨here, later⟩ := forall_mem_cons.mp fine
    obtain ⟨r, s', converted, own⟩ := convert_of_legible half mode here.1 here.2.toLegible s
    obtain ⟨rows, t, rest, owns⟩ := ih later s'
    exact ⟨r :: rows, t, .cons converted rest, .cons own owns⟩

lemma Converted.exists_row {α : Type} [Timescale α] {s t : Carry} {before after : List Properties}
    {p : Properties} (done : Converted α c mode s (before ++ p :: after) rows t) :
    ∃ r ∈ rows, ∃ s' t', carry (convert α c mode p) s' = (.ok r, t') := by
  induction before generalizing s rows with
  | nil =>
    cases done with
    | cons here _ => exact ⟨_, mem_cons_self, _, _, here⟩
  | cons p' before ih =>
    cases done with
    | cons _ later =>
      obtain ⟨r, member, made⟩ := ih later
      exact ⟨r, mem_cons_of_mem _ member, made⟩

lemma fits_of_fine (fine : Fine c qs)
    (owns : Forall₂ (OwnRow c) qs rows) : (rows.all fun r => fits r.start && fits r.stop) = true := by
  rw [all_eq_true]
  intro r member
  obtain ⟨q, hq, own⟩ := exists_of_mem_right owns member
  rw [Bool.and_eq_true]
  exact (fine q hq).2.room r own

lemma rowsIn_of_fine (half : HalfTicks c) (mode : Mode) (windowed : Bool) (fine : Fine c qs) : ∃ rows : List Row,
      (rowsIn ℚ c mode windowed (qs.map .ofPulse)).1 = .ok (Row.sortByChannel rows) ∧ Forall₂ (OwnRow c) qs rows := by
  obtain ⟨rows, t, converted, owns⟩ := converted_of_fine half .live fine {}
  have placed : PlacedIn ℚ c (qs.map .ofPulse) (Row.sortByChannel rows) :=
    ⟨rows, t, converted, fits_of_fine fine owns, rfl⟩
  exact ⟨rows, by rw [rowsIn_eq_ok.mpr ⟨placed, rfl⟩], owns⟩

lemma clear_of_alone (half : HalfTicks c) {windowed : Bool} (checked : checkPulse ℚ c q = .ok ())
    (done : (rowsIn ℚ c mode windowed [.ofPulse q]).1 = .ok rows) : Clear c q := by
  obtain ⟨⟨given, t, converted, fit, -⟩, -⟩ := rowsIn_eq_ok.mp (Prod.ext done rfl)
  obtain ⟨n, start, length, move, growth, accepted⟩ := accepted_of_checkPulse checked
  cases converted with
  | @cons _ _ _ _ _ r _ here later =>
    cases later with
    | nil =>
      obtain ⟨name, channel, first, last, reading, rfl, row⟩ := convert_ok.mp here
      obtain ⟨n, a, l, -, starts, lasts, -⟩ := row_ok row
      -- Nothing is known before the first pulse, so its start and its length are its own.
      obtain rfl : first = some a := by simpa [Carry.after, renew] using starts
      obtain rfl : last = some l := by simpa [Carry.after, renew] using lasts
      have legible := legible_of_reading half accepted reading
      have own := ownRow_of_convert half checked legible here
      refine { legible with room := fun s own' => ?_ }
      rw [own'.unique own]
      simpa using fit

/-- An accepted pulse is clear exactly if among any other clear pulses all of them become their own rows. Then it becomes
its own row also among pulses of any other kind, if those become rows at all. -/
theorem own_row_iff_clear {c : Config} (half : HalfTicks c) (mode : Mode) (windowed : Bool) {q : Pulse}
    (checked : checkPulse ℚ c q = .ok ()) :
    (Clear c q ↔ ∀ before after : List Pulse, Fine c (before ++ after) → ∃ rows : List Row,
      (rowsIn ℚ c mode windowed ((before ++ q :: after).map .ofPulse)).1 = .ok (Row.sortByChannel rows) ∧
        Forall₂ (OwnRow c) (before ++ q :: after) rows) ∧
    (Clear c q → ∀ (before after : List Properties) (rows : List Row),
      (rowsIn ℚ c mode windowed (before ++ .ofPulse q :: after)).1 = .ok rows → ∃ r ∈ rows, OwnRow c q r) := by
  refine ⟨⟨?_, ?_⟩, ?_⟩
  · intro clear before after fine
    refine rowsIn_of_fine half mode windowed fun p member => ?_
    rcases mem_append.mp member with front | back
    · exact fine p (mem_append_left _ front)
    · rcases mem_cons.mp back with rfl | back
      · exact ⟨checked, clear⟩
      · exact fine p (mem_append_right _ back)
  · intro always
    obtain ⟨rows, done, -⟩ := always [] [] (by simp [Fine])
    exact clear_of_alone half checked done
  · intro clear before after rows done
    obtain ⟨⟨given, t, converted, -, rfl⟩, -⟩ := rowsIn_eq_ok.mp (Prod.ext done rfl)
    obtain ⟨r, member, s, t', made⟩ := converted.exists_row
    exact ⟨r, Row.mem_sortByChannel.mpr member, ownRow_of_convert half checked clear.toLegible made⟩

/-! ### Pulses with and without a row of their own -/

lemma factory_halfTicks : HalfTicks .factory := ⟨rfl, rfl, ⟨85, rfl⟩, ⟨-65, rfl⟩⟩

/-- A pulse that is neither moved nor made longer. -/
def fixedPulse (name channel start length : String) : Pulse :=
  ⟨.text name, .text channel, .text start, .text length, "0 ns", "0 ns", .list []⟩

theorem generator_pulse_keeps_its_row : HalfTicks .factory ∧
    checkPulse ℚ .factory (fixedPulse "P0" "AWG" "1 s" "100 ns") = .ok () ∧
    ∀ (before after : List Properties) (rows : List Row),
      (rowsIn ℚ .factory .rehearsal false (before ++ .ofPulse (fixedPulse "P0" "AWG" "1 s" "100 ns") :: after)).1 = .ok rows →
        ∃ r ∈ rows, OwnRow .factory (fixedPulse "P0" "AWG" "1 s" "100 ns") r := by
  have checked : checkPulse ℚ .factory (fixedPulse "P0" "AWG" "1 s" "100 ns") = .ok () := by decide +kernel
  have alone : (rowsIn ℚ .factory .rehearsal false [.ofPulse (fixedPulse "P0" "AWG" "1 s" "100 ns")]).1 =
      .ok [⟨128, 500000040, 500000110⟩] := by decide +kernel
  exact ⟨factory_halfTicks, checked,
    (own_row_iff_clear factory_halfTicks .rehearsal false checked).2 (clear_of_alone factory_halfTicks checked alone)⟩

/-- A start in seconds is not found, and the start of the pulse before is taken for it. -/
theorem start_in_seconds_is_lost : checkPulse ℚ .factory (fixedPulse "P0" "TRIGGER" "100 ns" "100 ns") = .ok () ∧
    checkPulse ℚ .factory (fixedPulse "P1" "MW" "1 s" "100 ns") = .ok () ∧
    (rowsIn ℚ .factory .rehearsal false [.ofPulse (fixedPulse "P0" "TRIGGER" "100 ns" "100 ns"),
      .ofPulse (fixedPulse "P1" "MW" "1 s" "100 ns")]).1 = .ok [⟨1, 175, 225⟩, ⟨8, 175, 225⟩] ∧
    OwnRow .factory (fixedPulse "P1" "MW" "1 s" "100 ns") ⟨8, 500000125, 500000175⟩ := by
  have start : startMove .factory (fixedPulse "P1" "MW" "1 s" "100 ns") = 0 := by decide
  have length : lengthMove .factory (fixedPulse "P1" "MW" "1 s" "100 ns") = 0 := by decide
  refine ⟨by decide +kernel, by decide +kernel, by decide +kernel, ⟨3, rfl, rfl⟩, 1000000000, 100, by decide +kernel,
    by decide +kernel, ?_, ?_⟩
  · rw [start]
    norm_num
  · rw [start, length]
    norm_num

end EprBench.Pulser
