import EprBench.Proofs.Pulser.Carries

/-! Windows that stay where they are when a rehearsal clears them once more. -/
namespace EprBench.Pulser

open Outcome

variable {rows : List Row} {r : Row} {awg : Int} {c : Config}

/-- No window is moved: not by the start of any row, and not by the end of the last one. -/
def Steady (awg : Int) (rows : List Row) : Prop :=
  ∀ r ∈ rows, r.channel = awg →
    (∀ p ∈ rows, Row.clearStart p r = r) ∧ ∀ p ∈ rows.getLast?, Row.clearStop p r = r

instance (awg : Int) (rows : List Row) : Decidable (Steady awg rows) :=
  inferInstanceAs (Decidable (∀ r ∈ rows, r.channel = awg →
    (∀ p ∈ rows, Row.clearStart p r = r) ∧ ∀ p ∈ rows.getLast?, Row.clearStop p r = r))

lemma moveAt_eq_self {move : Row → Row → Row} {i : Nat} (here : rows[i]? = some r) {j : Nat}
    (still : ∀ p, rows[j]? = some p → move p r = r) : moveAt move i rows j = rows := by
  rw [moveAt, here]
  cases other : rows[j]? with
  | none => rfl
  | some p =>
    obtain ⟨inside, rfl⟩ := List.getElem?_eq_some_iff.mp here
    simp only [still p other, List.set_getElem_self]

lemma foldl_eq_self {α β : Type} {f : α → β → α} {a : α} {xs : List β} (still : ∀ x ∈ xs, f a x = a) :
    xs.foldl f a = a := by
  induction xs with
  | nil => rfl
  | cons x xs ih =>
    rw [List.foldl_cons, still x List.mem_cons_self, ih fun y hy => still y (List.mem_cons_of_mem x hy)]

lemma clearWindow_of_steady (steady : Steady awg rows) (i : Nat) : clearWindow awg rows i = rows := by
  rw [clearWindow]
  split
  · rename_i window
    rcases here : rows[i]? with _ | r
    · simp [here] at window
    have still := steady r (List.mem_of_getElem? here) (by simpa [here] using window)
    rw [foldl_eq_self fun j _ => moveAt_eq_self here fun p other => still.1 p (List.mem_of_getElem? other)]
    refine moveAt_eq_self here fun p other => still.2 p ?_
    rwa [List.getLast?_eq_getElem?, Option.mem_def]
  · rfl

lemma rehearsedWindows_of_steady (bit : c.bit "AWG" = .ok awg)
    (steady : Steady awg rows) : rehearsedWindows c rows = .ok rows := by
  rw [rehearsedWindows, bit, ok_bind, foldl_eq_self fun i _ => clearWindow_of_steady steady i]
  rfl

/-! ### Windows that are apart -/

namespace Row

lemma shortPulse_iff : r.shortPulse = true ↔ r.stop - r.start ≤ 30 := by
  rw [shortPulse, decide_eq_true_iff, Row.length]

lemma clearStart_self (ordered : r.start ≤ r.stop) : clearStart r r = r := by
  simp only [clearStart, justAfter_iff, justBefore_iff, shortPulse_iff]
  rw [if_neg (by omega), if_neg (by omega), if_neg (by omega)]
  split
  · rw [if_pos (by omega)]
  · rfl

lemma clearStop_self (ordered : r.start ≤ r.stop) : clearStop r r = r := by
  simp only [clearStop, justAfter_iff, justBefore_iff, shortPulse_iff]
  rw [if_neg (by omega), if_neg (by omega)]
  split
  · rw [if_pos (by omega)]
  · rw [if_neg (by omega)]

lemma clearStart_apart {p : Row} (ordered : p.start ≤ p.stop) (ordered' : r.start ≤ r.stop)
    (apart : p.stop + overlap < r.start ∨ r.stop + overlap < p.start) : clearStart p r = r := by
  simp only [overlap] at apart
  simp only [clearStart, justAfter_iff, justBefore_iff]
  rw [if_neg (by omega), if_neg (by omega), if_neg (by omega), if_neg (by omega)]

lemma clearStop_apart {p : Row} (ordered : p.start ≤ p.stop) (ordered' : r.start ≤ r.stop)
    (apart : p.stop + overlap < r.start ∨ r.stop + overlap < p.start) : clearStop p r = r := by
  simp only [overlap] at apart
  simp only [clearStop, justAfter_iff, justBefore_iff]
  rw [if_neg (by omega), if_neg (by omega), if_neg (by omega), if_neg (by omega)]

end Row

lemma steady_of_apart (awg : Int) (ordered : ∀ r ∈ rows, r.start ≤ r.stop)
    (apart : rows.Pairwise fun a b => a.stop + overlap < b.start ∨ b.stop + overlap < a.start) : Steady awg rows := by
  let Clear (a b : Row) : Prop := a = b ∨ (a.stop + overlap < b.start ∨ b.stop + overlap < a.start)
  have symmetric : Std.Symm Clear := ⟨fun _ _ => Or.imp Eq.symm Or.symm⟩
  have related : ∀ ⦃a⦄, a ∈ rows → ∀ ⦃b⦄, b ∈ rows → Clear a b :=
    List.Pairwise.forall_of_forall (fun r _ => Or.inl rfl) (apart.imp Or.inr)
  intro r hr _
  refine ⟨fun p hp => ?_, fun p hp => ?_⟩
  · rcases related hp hr with rfl | apart
    · exact Row.clearStart_self (ordered p hp)
    · exact Row.clearStart_apart (ordered p hp) (ordered r hr) apart
  · have member := List.mem_of_getLast? hp
    rcases related member hr with rfl | apart
    · exact Row.clearStop_self (ordered p member)
    · exact Row.clearStop_apart (ordered p member) (ordered r hr) apart

lemma steady_of_no_window (none : ∀ r ∈ rows, r.channel ≠ awg) : Steady awg rows :=
  fun r hr window => absurd window (none r hr)

/-- A group whose windows are left alone once it has been checked: there is nothing but windows in it, or they are
steady. -/
def Unaltered (c : Config) (g : List Row) : Prop :=
  ∀ awg, c.bit "AWG" = .ok awg → (overlap < c.minLength ∧ ∀ r ∈ g, r.channel = awg) ∨ Steady awg g

instance (c : Config) (g : List Row) : Decidable (Unaltered c g) :=
  inferInstanceAs (Decidable (∀ awg, c.bit "AWG" = .ok awg →
    (overlap < c.minLength ∧ ∀ r ∈ g, r.channel = awg) ∨ Steady awg g))

/-- A group with a window and with a row that is none. -/
def Mixed (awg : Int) (g : List Row) : Prop := (∃ r ∈ g, r.channel = awg) ∧ ∃ r ∈ g, r.channel ≠ awg

instance (awg : Int) (g : List Row) : Decidable (Mixed awg g) :=
  inferInstanceAs (Decidable ((∃ r ∈ g, r.channel = awg) ∧ ∃ r ∈ g, r.channel ≠ awg))

lemma unaltered_of_mixed (bit : c.bit "AWG" = .ok awg) (wide : overlap < c.minLength)
    {g : List Row} (steady : Mixed awg g → Steady awg g) : Unaltered c g := by
  intro awg' bit'
  obtain rfl := Except.ok.inj (bit.symm.trans bit')
  by_cases other : ∃ r ∈ g, r.channel ≠ awg
  · by_cases window : ∃ r ∈ g, r.channel = awg
    · exact .inr (steady ⟨window, other⟩)
    · exact .inr (steady_of_no_window fun r hr here => window ⟨r, hr, here⟩)
  · exact .inl ⟨wide, fun r hr => by_contra fun here => other ⟨r, hr, here⟩⟩

lemma steady_of_checkDriven (bit : c.bit "AWG" = .ok awg) {g : List Row}
    (unaltered : Unaltered c g) (ordered : ∀ r ∈ g, r.start ≤ r.stop)
    (checked : checkDriven c .rehearsal true g = .ok ()) : Steady awg g := by
  rcases unaltered awg bit with ⟨wide, windows⟩ | steady
  · simp only [checkDriven, Bool.not_true, Bool.false_eq_true, if_false, bit, ok_bind] at checked
    obtain ⟨⟨⟩, -, checked⟩ := bind_eq_ok.mp checked
    obtain ⟨⟨⟩, spaced, -⟩ := bind_eq_ok.mp checked
    rw [List.filter_eq_self.mpr fun r hr => by simpa using windows r hr] at spaced
    have nonneg : 0 ≤ c.minLength := le_of_lt (lt_trans (by decide) wide)
    exact steady_of_apart awg ordered ((spaced_of_checkDistance nonneg ordered spaced).imp fun {a b} apart => by omega)
  · exact steady

end EprBench.Pulser
