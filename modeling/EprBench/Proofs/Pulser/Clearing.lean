import EprBench.Proofs.Outcome
import EprBench.Pulser.Protection

/-! Clearing edges: as long as no pulse is shorter than five ticks, it uncovers nothing. -/
namespace EprBench.Pulser

open List

variable {awg : Int} {i : Nat}

/-- `r` lies within `s`, on the same channel. -/
structure Row.Within (r s : Row) : Prop where
  channel : s.channel = r.channel
  start : s.start ≤ r.start
  stop : r.stop ≤ s.stop

namespace Row

lemma Within.refl (r : Row) : r.Within r := ⟨rfl, le_refl _, le_refl _⟩

lemma Within.trans {r s t : Row} (h : r.Within s) (h' : s.Within t) : r.Within t :=
  ⟨h'.channel.trans h.channel, h'.start.trans h.start, h.stop.trans h'.stop⟩

lemma Within.length_le {r s : Row} (h : r.Within s) : r.length ≤ s.length := by
  have := h.start
  have := h.stop
  simp only [Row.length]
  omega

@[simp] lemma clear_channel (r pulse : Row) : (clear r pulse).channel = r.channel := by
  have starts : ∀ q : Row, (clearStart pulse q).channel = q.channel := by
    intro q
    simp only [clearStart]
    split_ifs <;> rfl
  have stops : ∀ q : Row, (clearStop pulse q).channel = q.channel := by
    intro q
    simp only [clearStop]
    split_ifs <;> rfl
  rw [clear, stops, starts]

@[simp] lemma clearPhase_channel (r phase : Row) : (clearPhase r phase).channel = r.channel := by
  simp only [clearPhase]
  split_ifs <;> rfl

lemma foldl_channel {move : Row → Row → Row} (each : ∀ r p, (move r p).channel = r.channel) (ps : List Row) (r : Row) :
    (ps.foldl move r).channel = r.channel := by
  induction ps generalizing r with
  | nil => rfl
  | cons p ps ih => rw [foldl_cons, ih, each]

lemma justAfter_iff {d : Int} : justAfter d = true ↔ 0 < d ∧ d ≤ 5 := by
  rw [justAfter, Bool.and_eq_true, decide_eq_true_iff, decide_eq_true_iff, overlap]

lemma justBefore_iff {d : Int} : justBefore d = true ↔ -5 ≤ d ∧ d < 0 := by
  rw [justBefore, Bool.and_eq_true, decide_eq_true_iff, decide_eq_true_iff, overlap]

variable {pulse : Row}

lemma within_clearStart (long : 5 ≤ pulse.length) (r : Row) : r.Within (clearStart pulse r) := by
  obtain ⟨channel, start, stop⟩ := r
  rw [Row.length] at long
  simp only [clearStart, justAfter_iff, justBefore_iff, overlap]
  split_ifs <;> exact ⟨rfl, by dsimp only; omega, by dsimp only; omega⟩

lemma within_clearStop (long : 5 ≤ pulse.length) (r : Row) : r.Within (clearStop pulse r) := by
  obtain ⟨channel, start, stop⟩ := r
  rw [Row.length] at long
  simp only [clearStop, justAfter_iff, justBefore_iff, overlap]
  split_ifs <;> exact ⟨rfl, by dsimp only; omega, by dsimp only; omega⟩

lemma within_clear (long : 5 ≤ pulse.length) (r : Row) : r.Within (clear r pulse) :=
  (within_clearStart long r).trans (within_clearStop long _)

lemma within_clearPhase (r phase : Row) : r.Within (clearPhase r phase) := by
  have ends : ∀ q : Row, q.Within
      (if justAfter (phase.start - q.stop) then { q with stop := phase.start + overlap }
      else if justBefore (phase.start - q.stop) then { q with stop := q.stop + overlap }
      else q) := by
    rintro ⟨channel, start, stop⟩
    simp only [justAfter_iff, justBefore_iff, overlap]
    split_ifs <;> exact ⟨rfl, by dsimp only; omega, by dsimp only; omega⟩
  have begins : ∀ q : Row, q.Within
      (if justAfter (phase.start - q.start) then { q with start := q.start - overlap }
      else if justBefore (phase.start - q.start) then { q with start := phase.start }
      else q) := by
    rintro ⟨channel, start, stop⟩
    simp only [justAfter_iff, justBefore_iff, overlap]
    split_ifs <;> exact ⟨rfl, by dsimp only; omega, by dsimp only; omega⟩
  exact (ends r).trans (begins _)

lemma within_foldl {move : Row → Row → Row} {ps : List Row} (each : ∀ p ∈ ps, ∀ r : Row, r.Within (move r p))
    (r : Row) : r.Within (ps.foldl move r) := by
  induction ps generalizing r with
  | nil => exact .refl r
  | cons p ps ih =>
    exact (each p mem_cons_self r).trans (ih (fun q hq => each q (mem_cons_of_mem _ hq)) _)

lemma clearOf_channel (pulses phases : List Row) (r : Row) : (clearOf pulses phases r).channel = r.channel := by
  rw [clearOf, foldl_channel clearPhase_channel, foldl_channel clear_channel]

lemma within_clearOf {pulses : List Row} (long : ∀ p ∈ pulses, 5 ≤ p.length) (phases : List Row) (r : Row) :
    r.Within (clearOf pulses phases r) :=
  (within_foldl (fun p hp q => within_clear (long p hp) q) r).trans
    (within_foldl (fun p _ q => within_clearPhase q p) _)

end Row

/-- All pulses last five ticks or more. -/
def Long (rows : List Row) : Prop := ∀ r ∈ rows, 5 ≤ r.length

/-! ### Windows in a rehearsal -/

def Widened (awg : Int) (rows rows' : List Row) : Prop :=
  Forall₂ (fun r r' => r.Within r' ∧ (r.channel ≠ awg → r' = r)) rows rows'

lemma Widened.refl (awg : Int) (rows : List Row) : Widened awg rows rows :=
  forall₂_same.mpr fun r _ => ⟨Row.Within.refl r, fun _ => rfl⟩

lemma Widened.trans {xs ys zs : List Row} (h : Widened awg xs ys) (h' : Widened awg ys zs) : Widened awg xs zs := by
  induction h generalizing zs with
  | nil => exact h'
  | cons here _ ih =>
    cases h' with
    | cons here' later' =>
      refine Forall₂.cons ⟨here.1.trans here'.1, fun other => ?_⟩ (ih later')
      have same := here.2 other
      rw [here'.2 (by rw [same]; exact other), same]

variable {rows rows' : List Row}

lemma Widened.long (h : Widened awg rows rows') (long : Long rows) : Long rows' := by
  induction h with
  | nil => exact long
  | cons here _ ih =>
    intro r hr
    rcases mem_cons.mp hr with rfl | hr
    · exact (long _ mem_cons_self).trans here.1.length_le
    · exact ih (fun q hq => long q (mem_cons_of_mem _ hq)) r hr

lemma widened_set {r r' : Row} (here : rows[i]? = some r)
    (window : r.channel = awg) (grown : r.Within r') : Widened awg rows (rows.set i r') := by
  induction rows generalizing i with
  | nil => simp at here
  | cons q rows ih =>
    cases i with
    | zero =>
      rw [getElem?_cons_zero, Option.some.injEq] at here
      subst here
      exact Forall₂.cons ⟨grown, fun other => absurd window other⟩ (Widened.refl awg rows)
    | succ i =>
      exact Forall₂.cons ⟨Row.Within.refl q, fun _ => rfl⟩ (ih (by simpa using here))

def WindowAt (awg : Int) (rows : List Row) (i : Nat) : Prop := ∃ r, rows[i]? = some r ∧ r.channel = awg

lemma Widened.windowAt (h : Widened awg rows rows') (window : WindowAt awg rows i) : WindowAt awg rows' i := by
  obtain ⟨r, hr, channel⟩ := window
  induction h generalizing i with
  | nil => simp at hr
  | cons here _ ih =>
    cases i with
    | zero =>
      rw [getElem?_cons_zero, Option.some.injEq] at hr
      subst hr
      exact ⟨_, getElem?_cons_zero, here.1.channel.trans channel⟩
    | succ i => exact ih (by simpa using hr)

lemma widened_moveAt (long : Long rows) (window : WindowAt awg rows i)
    {move : Row → Row → Row} (grows : ∀ p : Row, 5 ≤ p.length → ∀ r : Row, r.Within (move p r)) (j : Nat) :
    Widened awg rows (moveAt move i rows j) := by
  obtain ⟨r, hr, channel⟩ := window
  rw [moveAt, hr]
  cases hp : rows[j]? with
  | none => exact Widened.refl awg rows
  | some p => exact widened_set hr channel (grows p (long p (List.mem_of_getElem? hp)) r)

lemma widened_moves (long : Long rows) (window : WindowAt awg rows i)
    {move : Row → Row → Row} (grows : ∀ p : Row, 5 ≤ p.length → ∀ r : Row, r.Within (move p r)) (js : List Nat) :
    Widened awg rows (js.foldl (moveAt move i) rows) := by
  induction js generalizing rows with
  | nil => exact Widened.refl awg rows
  | cons j js ih =>
    have step := widened_moveAt long window grows j
    exact step.trans (ih (step.long long) (step.windowAt window))

lemma widened_clearWindow (awg : Int) (long : Long rows) (i : Nat) : Widened awg rows (clearWindow awg rows i) := by
  rw [clearWindow]
  split
  · rename_i here
    have window : WindowAt awg rows i := by
      cases hr : rows[i]? with
      | none => simp [hr] at here
      | some r => exact ⟨r, hr, by simpa [hr] using here⟩
    have starts := widened_moves long window (fun p hp r => Row.within_clearStart hp r) (List.range rows.length)
    exact starts.trans (widened_moveAt (starts.long long) (starts.windowAt window)
      (fun p hp r => Row.within_clearStop hp r) _)
  · exact Widened.refl awg rows

lemma rehearsedWindows_spec {c : Config} (bit : c.bit "AWG" = .ok awg)
    (long : Long rows) (made : rehearsedWindows c rows = .ok rows') : Widened awg rows rows' := by
  rw [rehearsedWindows, bit, Outcome.ok_bind, Outcome.pure_eq_ok] at made
  subst made
  have steps : ∀ (is : List Nat) (qs : List Row), Long qs → Widened awg qs (is.foldl (clearWindow awg) qs) := by
    intro is
    induction is with
    | nil => exact fun qs _ => Widened.refl awg qs
    | cons i is ih =>
      intro qs hqs
      have step := widened_clearWindow awg hqs i
      exact step.trans (ih _ (step.long hqs))
  exact steps _ rows long

end EprBench.Pulser
