import EprBench.Proofs.Outcome
import EprBench.Proofs.Pulser.Order

/-! From pulses to rows, one pulse after the other. -/
namespace EprBench.Pulser

open Value List Outcome

variable {c : Config} {mode mode' : Mode} {rows : List Row} {α : Type} [Timescale α]

/-- What is known after a pulse with the given properties. -/
def Carry.after (s : Carry) (channel : Option Nat) (start length : Option Int) (windowed : Bool) : Carry :=
  ⟨renew channel s.channel, renew start s.start, renew length s.length, s.windowed || windowed⟩

structure Reading (α : Type) [Timescale α] (c : Config) (mode : Mode) (p : Properties) (name : Value) (channel : Option Nat)
    (start length : Option Int) : Prop where
  named : p.channel = .ok name
  found : name.find c.channels = .ok channel
  starts : (p.effectiveStart c mode (isWindowed name) >>= ticksOf α c) = .ok start
  lasts : (p.effectiveLength c mode (isWindowed name) >>= ticksOf α c) = .ok length
  moves : ∃ d, (p.deltaStart >>= ticksOf α c) = .ok d
  grows : ∃ d, (p.lengthIncrement >>= ticksOf α c) = .ok d

lemma carry_lift_ok {β : Type} {x : Outcome β} {a : β} {s s' : Carry} :
    carry (liftM x : Conversion β) s = (.ok a, s') ↔ x = .ok a ∧ s = s' := by
  have step : carry (liftM x : Conversion β) s = (x, s) := rfl
  simp [step]

lemma row_ok {s : Carry} {r : Row} (made : s.row c = .ok r) :
    ∃ n start length, s.channel = some n ∧ s.start = some start ∧ s.length = some length ∧
      r = ⟨twoTo n, start + c.constantShift, c.constantShift + start + length⟩ := by
  rcases s with ⟨channel, start, length, windowed⟩
  cases channel with
  | none => simp [Carry.row] at made
  | some n =>
    cases start with
    | none => simp [Carry.row] at made
    | some start =>
      cases length with
      | none => simp [Carry.row] at made
      | some length => exact ⟨n, start, length, rfl, rfl, rfl, (Except.ok.inj made).symm⟩

lemma convert_ok {p : Properties} {s s' : Carry} {r : Row} :
    carry (convert α c mode p) s = (.ok r, s') ↔ ∃ name channel start length,
      Reading α c mode p name channel start length ∧ s' = s.after channel start length (isWindowed name) ∧
      s'.row c = .ok r := by
  rw [convert]
  simp only [carry_bind_ok, carry_lift_ok, carry_modify_ok, carry_get_ok]
  constructor
  · rintro ⟨name, _, ⟨named, rfl⟩, channel, _, ⟨found, rfl⟩, _, _, rfl, place, _, ⟨placed, rfl⟩, _, _, rfl, start, _,
      ⟨starts, rfl⟩, _, _, rfl, span, _, ⟨spanned, rfl⟩, length, _, ⟨lasts, rfl⟩, _, _, rfl, d, _, ⟨moves, rfl⟩, e, _,
      ⟨grows, rfl⟩, _, _, ⟨rfl, rfl⟩, done, rfl⟩
    exact ⟨name, channel, start, length, ⟨named, found, bind_eq_ok.mpr ⟨place, placed, starts⟩,
      bind_eq_ok.mpr ⟨span, spanned, lasts⟩, ⟨d, moves⟩, ⟨e, grows⟩⟩, rfl, done⟩
  · rintro ⟨name, channel, start, length, ⟨named, found, starts, lasts, ⟨d, moves⟩, ⟨e, grows⟩⟩, rfl, done⟩
    obtain ⟨place, placed, starts⟩ := bind_eq_ok.mp starts
    obtain ⟨span, spanned, lasts⟩ := bind_eq_ok.mp lasts
    exact ⟨name, _, ⟨named, rfl⟩, channel, _, ⟨found, rfl⟩, ⟨⟩, _, rfl, place, _, ⟨placed, rfl⟩, ⟨⟩, _, rfl, start, _,
      ⟨starts, rfl⟩, ⟨⟩, _, rfl, span, _, ⟨spanned, rfl⟩, length, _, ⟨lasts, rfl⟩, ⟨⟩, _, rfl, d, _, ⟨moves, rfl⟩, e, _,
      ⟨grows, rfl⟩, _, _, ⟨rfl, rfl⟩, done, rfl⟩

/-! ### All pulses -/

inductive Converted (α : Type) [Timescale α] (c : Config) (mode : Mode) : Carry → List Properties → List Row → Carry → Prop where
  | nil (s : Carry) : Converted α c mode s [] [] s
  | cons {s s' t : Carry} {p : Properties} {ps : List Properties} {r : Row} {rows : List Row} :
      carry (convert α c mode p) s = (.ok r, s') → Converted α c mode s' ps rows t →
      Converted α c mode s (p :: ps) (r :: rows) t

lemma mapM_convert_ok {ps : List Properties} {s t : Carry} :
    carry (ps.mapM (convert α c mode)) s = (.ok rows, t) ↔ Converted α c mode s ps rows t := by
  induction ps generalizing s rows t with
  | nil =>
    rw [mapM_nil, carry_pure_ok]
    constructor
    · rintro ⟨rfl, rfl⟩
      exact Converted.nil s
    · intro h
      cases h
      exact ⟨rfl, rfl⟩
  | cons p ps ih =>
    rw [mapM_cons, carry_bind_ok]
    simp only [carry_bind_ok, carry_pure_ok, ih]
    constructor
    · rintro ⟨r, s', here, later, t', rest, rfl, rfl⟩
      exact Converted.cons here rest
    · intro h
      cases h with
      | cons here rest => exact ⟨_, _, here, _, _, rest, rfl, rfl⟩

/-! ### What does not matter -/

lemma moved_ok {time delay : Value} {t : String} (ok : moved mode time delay = .ok t) :
    moved mode' time delay = .ok t := by
  unfold moved at ok ⊢
  obtain ⟨words, pieces, ok⟩ := bind_eq_ok.mp ok
  obtain ⟨unit, found, ok⟩ := bind_eq_ok.mp ok
  rw [pieces, ok_bind, found, ok_bind]
  cases h : unitLengths.lookup unit with
  | some k => simpa only [h] using ok
  | none => cases mode <;> simp [h] at ok

lemma effective_ok {time : Outcome Value} {delay v : Value} {windowed : Bool}
    (ok : (do
      let t ← time
      if windowed then return .text (← moved mode t delay) else return t : Outcome Value) = .ok v) :
    (do
      let t ← time
      if windowed then return .text (← moved mode' t delay) else return t : Outcome Value) = .ok v := by
  obtain ⟨t, read, ok⟩ := bind_eq_ok.mp ok
  rw [read, ok_bind]
  cases windowed with
  | false => exact ok
  | true =>
    obtain ⟨text, shifted, ok⟩ := bind_eq_ok.mp ok
    exact bind_eq_ok.mpr ⟨text, moved_ok shifted, ok⟩

lemma Reading.inMode {p : Properties} {name : Value} {channel : Option Nat}
    {start length : Option Int} (read : Reading α c mode p name channel start length) :
    Reading α c mode' p name channel start length := by
  refine { read with starts := ?_, lasts := ?_ }
  · obtain ⟨v, hv, ticks⟩ := bind_eq_ok.mp read.starts
    exact bind_eq_ok.mpr ⟨v, effective_ok hv, ticks⟩
  · obtain ⟨v, hv, ticks⟩ := bind_eq_ok.mp read.lasts
    exact bind_eq_ok.mpr ⟨v, effective_ok hv, ticks⟩

/-- Whether a pulse is one of the generator. -/
def Properties.windowed (p : Properties) : Bool :=
  match p.channel with
  | .ok name => isWindowed name
  | .error _ => false

lemma Carry.row_reflag (c : Config) (s : Carry) (w : Bool) : Carry.row c { s with windowed := w } = s.row c := by
  rcases s with ⟨_ | _, _ | _, _ | _, _⟩ <;> rfl

lemma Converted.reflag {s t : Carry} {ps : List Properties} (done : Converted α c mode s ps rows t) :
    t.windowed = (s.windowed || ps.any Properties.windowed) ∧ ∀ w,
      Converted α c mode' { s with windowed := w } ps rows { t with windowed := w || ps.any Properties.windowed } := by
  induction done with
  | nil s => exact ⟨by simp, fun w => by simpa using Converted.nil _⟩
  | @cons s s' t p ps r rows here later ih =>
    obtain ⟨name, channel, start, length, reading, rfl, row⟩ := convert_ok.mp here
    have flag : p.windowed = isWindowed name := by rw [Properties.windowed, reading.named]
    refine ⟨?_, fun w => ?_⟩
    · rw [ih.1, any_cons, flag, ← Bool.or_assoc]
      rfl
    have later' := ih.2 (w || isWindowed name)
    rw [Bool.or_assoc, ← flag, ← any_cons] at later'
    refine Converted.cons (convert_ok.mpr ⟨name, channel, start, length, reading.inMode, rfl, ?_⟩) (flag ▸ later')
    rw [← row]
    exact Carry.row_reflag c (s.after channel start length (isWindowed name)) _

def PlacedIn (α : Type) [Timescale α] (c : Config) (ps : List Properties) (rows : List Row) : Prop :=
  ∃ given t, Converted α c .live {} ps given t ∧ (given.all fun r => fits r.start && fits r.stop) = true ∧
    rows = Row.sortByChannel given

def Placed (c : Config) (ps : List Properties) (rows : List Row) : Prop := PlacedIn Float c ps rows

lemma rowsIn_eq_ok {windowed flag : Bool} {ps : List Properties} : rowsIn α c mode windowed ps = (.ok rows, flag) ↔
      PlacedIn α c ps rows ∧ flag = (windowed || ps.any Properties.windowed) := by
  rcases h : carry (ps.mapM (convert α c mode)) { windowed := windowed } with ⟨result, t⟩
  have eq : rowsIn α c mode windowed ps = ((do
      let rows ← result
      if rows.all fun r => fits r.start && fits r.stop then return Row.sortByChannel rows
      else throw .overflow : Outcome (List Row)), t.windowed) := by
    unfold rowsIn
    have h' : (ps.mapM (convert α c mode)).run.run { windowed := windowed } = (result, t) := h
    rw [h']
  rw [eq, Prod.mk.injEq, bind_eq_ok]
  constructor
  · rintro ⟨⟨given, rfl, sorted⟩, rfl⟩
    have converted := mapM_convert_ok.mp h
    split at sorted
    · rename_i fit
      obtain ⟨told, again⟩ := converted.reflag
      exact ⟨⟨given, _, again false, fit, (pure_eq_ok.mp sorted).symm⟩, told⟩
    · exact absurd sorted (by simp)
  · rintro ⟨⟨given, t', converted, fit, rfl⟩, rfl⟩
    rw [mapM_convert_ok.mpr (converted.reflag.2 windowed), Prod.mk.injEq] at h
    obtain ⟨rfl, rfl⟩ := h
    exact ⟨⟨given, rfl, by rw [if_pos fit]; rfl⟩, rfl⟩

lemma rowsOf_eq_ok {windowed flag : Bool} {ps : List Properties} : rowsOf c mode windowed ps = (.ok rows, flag) ↔
      Placed c ps rows ∧ flag = (windowed || ps.any Properties.windowed) := rowsIn_eq_ok

/-! ### Channels of rows -/

lemma Converted.channel {s t : Carry} {ps : List Properties}
    (done : Converted α c mode s ps rows t) {P : Nat → Prop} (before : ∀ n, s.channel = some n → P n)
    (named : ∀ p ∈ ps, ∀ name n, p.channel = .ok name → name.find c.channels = .ok (some n) → P n) :
    ∀ r ∈ rows, ∃ n, P n ∧ r.channel = twoTo n := by
  induction done with
  | nil s => simp
  | @cons s s' t p ps r rows here later ih =>
    obtain ⟨name, channel, start, length, reading, rfl, row⟩ := convert_ok.mp here
    have known : ∀ n, (s.after channel start length (isWindowed name)).channel = some n → P n := by
      intro n hn
      cases channel with
      | none => exact before n hn
      | some m =>
        cases hn
        exact named p mem_cons_self name n reading.named reading.found
    intro r' member
    rcases mem_cons.mp member with rfl | member
    · obtain ⟨n, a, d, hn, -, -, rfl⟩ := row_ok row
      exact ⟨n, known n hn, rfl⟩
    · exact ih known (fun q hq => named q (mem_cons_of_mem _ hq)) r' member

lemma Placed.channel {ps : List Properties} (placed : Placed c ps rows)
    {P : Nat → Prop} (named : ∀ p ∈ ps, ∀ name n, p.channel = .ok name → name.find c.channels = .ok (some n) → P n) :
    ∀ r ∈ rows, ∃ n, P n ∧ r.channel = twoTo n := by
  obtain ⟨given, t, done, -, rfl⟩ := placed
  intro r member
  exact done.channel (by simp) named r (Row.mem_sortByChannel.mp member)

end EprBench.Pulser
