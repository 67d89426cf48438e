import EprBench.Proofs.Names
import EprBench.Proofs.Text
import EprBench.Waveform.Pulse

/-! What moving does to one pulse. Its start, its phase, its length and its width may change and nothing else does,
whether the move fails or not. -/
namespace EprBench.Waveform

open Value Outcome

/-! ### Times with a unit -/

/-- A time whose unit is known. -/
def Timed (v : Value) : Prop := ∃ n u more k, v.pieces ' ' = .ok (n :: u :: more) ∧ unitLengths.lookup u = some k

lemma timed_of_blankless {number : String} (whole : ' ' ∉ number.toList) : Timed (.text (number ++ " ns")) :=
  ⟨number, "ns", [], 1, congrArg Except.ok (Decimal.pieces_nanoseconds whole), rfl⟩

lemma timed_inNanoseconds (n : ℤ) : Timed (inNanoseconds n) := timed_of_blankless (Decimal.blank_notMem_intText n)

lemma Timed.read {v : Value} (timed : Timed v) {whole : String → Outcome ℤ} {found : Option ℤ}
    (read : timeOf? whole v = .ok found) : ∃ n, found = some n := by
  obtain ⟨n, u, more, k, cut, unit⟩ := timed
  have second : pick (n :: u :: more) 1 = .ok u := rfl
  rw [timeOf?, cut, ok_bind, second, ok_bind, unit] at read
  obtain ⟨a, -, read⟩ := bind_eq_ok.mp read
  obtain ⟨i, -, read⟩ := bind_eq_ok.mp read
  exact ⟨i * k, (pure_eq_ok.mp read).symm⟩

/-- A pulse whose times have known units. -/
structure Pulse.Timed (p : Pulse) : Prop where
  start : Waveform.Timed p.start
  deltaStart : Waveform.Timed p.deltaStart
  length : Waveform.Timed p.length
  sigma : Waveform.Timed p.sigma
  lengthIncrement : Waveform.Timed p.lengthIncrement

/-! ### What a change does to a pulse -/

def Pulse.frame (p : Pulse) : Pulse := { p with start := .nothing, phase := .nothing, length := .nothing, sigma := .nothing }

def lead (v : Value) : Outcome ℤ := do (← v.slice none (some (-3))).toInt

def Pulse.Growable (p : Pulse) : Prop :=
  lead p.lengthIncrement = .ok 0 ∨ p.function = .text "SINE" ∨ p.function = .text "GAUSS"

structure Displaced (kept : Prop) (d p : Pulse) : Prop where
  frame : p.frame = d.frame
  timed : p.Timed
  start : kept → p.start = d.start

def Pulse.back (d p : Pulse) : Pulse := { p with phase := d.phase, length := d.length, sigma := d.sigma }

namespace Displaced

variable {kept : Prop} {d p : Pulse} {v : Value}

lemma refl (timed : d.Timed) : Displaced kept d d := ⟨rfl, timed, fun _ => rfl⟩

lemma growable (moved : Displaced kept d p) : p.Growable ↔ d.Growable := by
  have step : p.lengthIncrement = d.lengthIncrement := (congrArg (·.lengthIncrement) moved.frame :)
  have function : p.function = d.function := (congrArg (·.function) moved.frame :)
  rw [Pulse.Growable, Pulse.Growable, step, function]

lemma withStart (moved : Displaced kept d p) (free : ¬ kept) (timed : Waveform.Timed v) :
    Displaced kept d { p with start := v } :=
  ⟨moved.frame, { moved.timed with start := timed }, fun here => absurd here free⟩

lemma withPhase (moved : Displaced kept d p) : Displaced kept d { p with phase := v } :=
  ⟨moved.frame, ⟨moved.timed.start, moved.timed.deltaStart, moved.timed.length, moved.timed.sigma, moved.timed.lengthIncrement⟩,
    moved.start⟩

lemma withLength (moved : Displaced kept d p) (timed : Waveform.Timed v) : Displaced kept d { p with length := v } :=
  ⟨moved.frame, { moved.timed with length := timed }, moved.start⟩

lemma withSigma (moved : Displaced kept d p) (timed : Waveform.Timed v) : Displaced kept d { p with sigma := v } :=
  ⟨moved.frame, { moved.timed with sigma := timed }, moved.start⟩

lemma back_eq (moved : Displaced kept d p) : d.back p = { d with start := p.start } := by
  obtain ⟨_⟩ := d
  obtain ⟨_⟩ := p
  have frame := moved.frame
  simp only [Pulse.frame, Pulse.mk.injEq, true_and] at frame
  simp only [Pulse.back, frame]

lemma forall_growable {ds ps : List Pulse} (all : List.Forall₂ (Displaced kept) ds ps) :
    (∀ p ∈ ps, p.Growable) ↔ ∀ d ∈ ds, d.Growable := by
  induction all with
  | nil => simp
  | cons first rest ih => rw [List.forall_mem_cons, List.forall_mem_cons, first.growable, ih]

lemma zipWith_start {ds ps : List Pulse} (all : List.Forall₂ (Displaced kept) ds ps) (alone : kept) :
    List.zipWith (fun d p => { d with start := p.start }) ds ps = ds := by
  induction all with
  | nil => rfl
  | cons first rest ih => rw [List.zipWith_cons_cons, ih, first.start alone]

end Displaced

/-- After the change the pulse is as `P` says, given whether the change succeeds. -/
def Leaves {α : Type} (P : Bool → Pulse → Prop) (x : Change α) (s : Progress) : Prop :=
  P (carry x s).1.isOk (carry x s).2.pulse

namespace Leaves

variable {α β : Type} {P : Bool → Pulse → Prop} {s : Progress}

lemma get_bind {f : Progress → Change β} (here : Leaves P (f s) s) : Leaves P (get >>= f) s := here

lemma lift_bind {x : Outcome α} {f : α → Change β} (safe : P false s.pulse) (each : ∀ a, x = .ok a → Leaves P (f a) s) :
    Leaves P (liftM x >>= f) s := by
  rw [Leaves, carry_bind]
  cases known : x with
  | error e => exact safe
  | ok a => exact each a known

lemma modify_bind {f : Progress → Progress} {k : PUnit → Change β} (later : Leaves P (k ⟨⟩) (f s)) :
    Leaves P (modify f >>= k) s := later

lemma ite {p : Prop} [Decidable p] {x y : Change α} (yes : p → Leaves P x s) (no : ¬ p → Leaves P y s) :
    Leaves P (if p then x else y) s := by
  split
  · exact yes ‹p›
  · exact no ‹¬ p›

end Leaves

def growBy (function : Value) (byName : Bool) (seen : Seen) : Change Unit := do
  if ← (function.equals "SINE" : Outcome Bool) then
    let length := (← required seen.place) + (← required seen.step)
    modify fun s => { s with pulse.length := inNanoseconds length }
    lengthen.widen seen
  else if ← (function.equals "GAUSS" : Outcome Bool) then lengthen.stretch seen
  else if byName then throw .notAssigned
  else if ← (function.equals "SINC" : Outcome Bool) then lengthen.stretch seen

lemma lengthen_eq (c : Limits) (mode : Mode) (byName : Bool) : lengthen c mode byName = (do
    let p := (← get).pulse
    let lead ← (← p.lengthIncrement.slice none (some (-3))).toInt
    if lead = 0 then return
    let step ← timeOf? wholePart p.lengthIncrement
    lengthen.check mode step (if byName then "ns, us, ms, s" else "ns, us, ms")
    modify fun s => { s with seen.step := step.orElse fun _ => s.seen.step }
    let length ← timeOf? wholePart p.length
    lengthen.check mode length (if byName then "ns, us, ms, s" else "ns, us, ms")
    modify fun s => { s with seen.place := length.orElse fun _ => s.seen.place }
    let sigma ← timeOf? wholePart p.sigma
    lengthen.check mode sigma "ns, us, ms"
    modify fun s => { s with seen.sigma := sigma.orElse fun _ => s.seen.sigma }
    let seen := (← get).seen
    if mode == .rehearsal then
      let length ← required seen.place
      let sigma ← required seen.sigma
      let step ← required seen.step
      if sigma = 0 then throw .divisionByZero
      ensure (grownLength length sigma step ≤ Decimal.ofInt c.maxLength)
        s!"Exceeded maximum pulse length{Decimal.intText c.maxLength}when increment the pulse"
    growBy p.function byName seen) := rfl

section

variable {kept : Prop} {d : Pulse} {s : Progress}

lemma leaves_shiftStart (moved : Displaced kept d s.pulse) (free : ¬ kept) :
    Leaves (fun _ => Displaced kept d) shiftStart s := by
  refine .get_bind (.lift_bind moved fun _ _ => .lift_bind moved fun _ _ => .ite (fun _ => moved) fun _ => ?_)
  refine .lift_bind moved fun _ _ => .modify_bind (.lift_bind moved fun _ _ => .modify_bind (.get_bind ?_))
  exact .lift_bind moved fun _ _ => .lift_bind moved fun _ _ => moved.withStart free (timed_inNanoseconds _)

lemma leaves_shiftPhase (moved : Displaced kept d s.pulse) : Leaves (fun _ => Displaced kept d) shiftPhase s := by
  refine .get_bind (.lift_bind moved fun _ _ => .ite (fun _ => moved) fun _ => ?_)
  exact .lift_bind moved fun _ _ => .lift_bind moved fun _ _ => moved.withPhase

lemma leaves_widen (seen : Seen) (moved : Displaced kept d s.pulse) :
    Leaves (fun _ => Displaced kept d) (lengthen.widen seen) s :=
  .lift_bind moved fun _ _ => .lift_bind moved fun _ _ => moved.withSigma (timed_inNanoseconds _)

lemma leaves_stretch (seen : Seen) (moved : Displaced kept d s.pulse) :
    Leaves (fun _ => Displaced kept d) (lengthen.stretch seen) s := by
  refine .lift_bind moved fun _ _ => .lift_bind moved fun _ _ => .ite (fun _ => moved) fun _ => ?_
  refine .lift_bind moved fun _ _ => .modify_bind (leaves_widen seen ?_)
  exact moved.withLength (timed_of_blankless (Decimal.blank_notMem_floatText _))

lemma leaves_grow (function : Value) (byName : Bool) (seen : Seen) (moved : Displaced kept d s.pulse) :
    Leaves (fun _ => Displaced kept d) (growBy function byName seen) s := by
  refine .lift_bind moved fun _ _ => .ite (fun _ => ?_) fun _ => .lift_bind moved fun _ _ => ?_
  · refine .lift_bind moved fun _ _ => .lift_bind moved fun _ _ => .modify_bind (leaves_widen _ ?_)
    exact moved.withLength (timed_inNanoseconds _)
  · refine .ite (fun _ => leaves_stretch _ moved) fun _ => .ite (fun _ => moved) fun _ => .lift_bind moved fun _ _ => ?_
    exact .ite (fun _ => leaves_stretch _ moved) fun _ => moved

lemma leaves_lengthen_of {P : Bool → Pulse → Prop} (c : Limits) (mode : Mode) (byName : Bool) (safe : P false s.pulse)
    (still : lead s.pulse.lengthIncrement = .ok 0 → P true s.pulse)
    (grows : ∀ seen t, t.pulse = s.pulse → Leaves P (growBy s.pulse.function byName seen) t) :
    Leaves P (lengthen c mode byName) s := by
  rw [lengthen_eq]
  refine .get_bind (.lift_bind safe fun front cut => .lift_bind safe fun number read => ?_)
  refine .ite (fun zero => still (bind_eq_ok.mpr ⟨front, cut, zero ▸ read⟩)) fun _ => ?_
  refine .lift_bind safe fun _ _ => .lift_bind safe fun _ _ => .modify_bind ?_
  refine .lift_bind safe fun _ _ => .lift_bind safe fun _ _ => .modify_bind ?_
  refine .lift_bind safe fun _ _ => .lift_bind safe fun _ _ => .modify_bind (.get_bind ?_)
  refine .ite (fun _ => ?_) fun _ => grows _ _ rfl
  refine .lift_bind safe fun _ _ => .lift_bind safe fun _ _ => .lift_bind safe fun _ _ => .ite (fun _ => safe) fun _ => ?_
  exact .lift_bind safe fun _ _ => grows _ _ rfl

lemma leaves_lengthen (c : Limits) (mode : Mode) (byName : Bool) (moved : Displaced kept d s.pulse) :
    Leaves (fun _ => Displaced kept d) (lengthen c mode byName) s :=
  leaves_lengthen_of c mode byName moved (fun _ => moved) fun _ _ same => leaves_grow _ _ _ (same ▸ moved)

end

/-! ### What a change answers -/

def left? {α : Type} (x : Change α) (s : Progress) : Option Pulse :=
  match carry x s with
  | (.ok _, t) => some t.pulse
  | (.error _, _) => none

lemma left?_eq_none {α : Type} {x : Change α} {s : Progress} (fails : Leaves (fun done _ => done = false) x s) :
    left? x s = none := by
  unfold Leaves at fails
  unfold left?
  generalize carry x s = ran at fails ⊢
  rcases ran with ⟨e | a, t⟩
  · rfl
  · cases fails

section

variable {α β : Type} {s t : Progress}

lemma left?_get_bind {f g : Progress → Change β} (here : left? (f s) s = left? (g t) t) :
    left? (get >>= f) s = left? (get >>= g) t := here

lemma left?_modify_bind {f f' : Progress → Progress} {k k' : PUnit → Change β}
    (later : left? (k ⟨⟩) (f s) = left? (k' ⟨⟩) (f' t)) : left? (modify f >>= k) s = left? (modify f' >>= k') t := later

lemma left?_lift_bind (x : Outcome α) {f g : α → Change β} (each : ∀ a, x = .ok a → left? (f a) s = left? (g a) t) :
    left? (liftM x >>= f) s = left? (liftM x >>= g) t := by
  cases known : x with
  | error e => rfl
  | ok a => exact each a known

lemma left?_ite {p : Prop} [Decidable p] {x x' y y' : Change α} (yes : p → left? x s = left? y t)
    (no : ¬ p → left? x' s = left? y' t) : left? (if p then x else x') s = left? (if p then y else y') t := by
  split
  · exact yes ‹p›
  · exact no ‹¬ p›

end

section

variable {p : Pulse}

lemma left?_shiftStart (timed : p.Timed) (seen seen' : Seen) : left? shiftStart ⟨p, seen⟩ = left? shiftStart ⟨p, seen'⟩ := by
  unfold shiftStart
  refine left?_get_bind (left?_lift_bind _ fun front _ => left?_lift_bind _ fun number _ => ?_)
  refine left?_ite (fun _ => rfl) fun _ => left?_lift_bind _ fun step read => left?_modify_bind ?_
  obtain ⟨i, rfl⟩ := timed.deltaStart.read read
  refine left?_lift_bind _ fun place read => left?_modify_bind (left?_get_bind ?_)
  obtain ⟨j, rfl⟩ := timed.start.read read
  rfl

lemma left?_shiftPhase (seen seen' : Seen) : left? shiftPhase ⟨p, seen⟩ = left? shiftPhase ⟨p, seen'⟩ := by
  unfold shiftPhase
  refine left?_get_bind (left?_lift_bind _ fun step _ => ?_)
  refine left?_ite (fun _ => rfl) fun _ => left?_lift_bind _ fun phase _ => left?_lift_bind _ fun step _ => rfl

lemma check_some (mode : Mode) (n : ℤ) (units : String) : lengthen.check mode (some n) units = .ok () := by
  rw [lengthen.check, Option.isSome_some, Bool.or_true]
  rfl

lemma left?_growBy (alike : p.function = .text "SINE" ∨ p.function = .text "GAUSS") (byName byName' : Bool) (seen : Seen)
    (s : Progress) : left? (growBy p.function byName seen) s = left? (growBy p.function byName' seen) s := by
  have apart : (Value.text "GAUSS").equals (.text "SINE") = .ok false := equals_text _ _
  rcases alike with named | named
  · rw [growBy, growBy, named, equals_text]
    rfl
  · rw [growBy, growBy, named, apart, equals_text]
    rfl

lemma left?_lengthen (timed : p.Timed) (c : Limits) (mode : Mode) {byName byName' : Bool}
    (alike : byName = byName' ∨ p.Growable) (seen seen' : Seen) :
    left? (lengthen c mode byName) ⟨p, seen⟩ = left? (lengthen c mode byName') ⟨p, seen'⟩ := by
  rw [lengthen_eq, lengthen_eq]
  refine left?_get_bind (left?_lift_bind _ fun front cut => left?_lift_bind _ fun number read => ?_)
  refine left?_ite (fun _ => rfl) fun moving => left?_lift_bind _ fun step read' => ?_
  have grown (seen : Seen) (s : Progress) :
      left? (growBy p.function byName seen) s = left? (growBy p.function byName' seen) s := by
    rcases alike with rfl | still | plain
    · rfl
    · have zero : lead p.lengthIncrement = .ok number := bind_eq_ok.mpr ⟨front, cut, read⟩
      exact absurd (Except.ok.inj (zero.symm.trans still)) moving
    · exact left?_growBy plain byName byName' seen s
  obtain ⟨i, rfl⟩ := timed.lengthIncrement.read read'
  rw [check_some, check_some]
  refine left?_lift_bind _ fun _ _ => left?_modify_bind (left?_lift_bind _ fun length read' => ?_)
  obtain ⟨j, rfl⟩ := timed.length.read read'
  rw [check_some, check_some]
  refine left?_lift_bind _ fun _ _ => left?_modify_bind (left?_lift_bind _ fun sigma read' => ?_)
  obtain ⟨k, rfl⟩ := timed.sigma.read read'
  refine left?_lift_bind _ fun _ _ => left?_modify_bind (left?_get_bind ?_)
  refine left?_ite (fun _ => ?_) fun _ => grown _ _
  refine left?_lift_bind _ fun _ _ => left?_lift_bind _ fun _ _ => left?_lift_bind _ fun _ _ => ?_
  exact left?_ite (fun _ => rfl) fun _ => left?_lift_bind _ fun _ _ => grown _ _

lemma growBy_fails (sine : p.function ≠ .text "SINE") (gauss : p.function ≠ .text "GAUSS") (seen : Seen) (s : Progress) :
    Leaves (fun done _ => done = false) (growBy p.function true seen) s := by
  have other {name : String} (apart : p.function ≠ .text name) {a : Bool} (same : p.function.equals (.text name) = .ok a) :
      ¬ a = true := by
    rintro rfl
    exact apart (eq_text_of_equals same)
  refine .lift_bind rfl fun a same => .ite (fun yes => absurd yes (other sine same)) fun _ => ?_
  exact .lift_bind rfl fun a same => .ite (fun yes => absurd yes (other gauss same)) fun _ => .ite (fun _ => rfl) nofun

lemma lengthen_fails (other : ¬ p.Growable) (c : Limits) (mode : Mode) (seen : Seen) :
    left? (lengthen c mode true) ⟨p, seen⟩ = none := by
  rw [Pulse.Growable, not_or, not_or] at other
  obtain ⟨still, sine, gauss⟩ := other
  exact left?_eq_none (leaves_lengthen_of c mode true rfl (fun zero => absurd zero still) fun _ _ _ =>
    growBy_fails sine gauss _ _)

lemma left?_byName (timed : p.Timed) (c : Limits) (mode : Mode) {q : Pulse} :
    left? (lengthen c mode true) ⟨p, {}⟩ = some q ↔ p.Growable ∧ left? (lengthen c mode false) ⟨p, {}⟩ = some q := by
  by_cases grows : p.Growable
  · rw [and_iff_right grows, left?_lengthen timed c mode (Or.inr grows) {} {}]
  · rw [lengthen_fails grows]
    exact ⟨nofun, fun both => absurd both.1 grows⟩

end

end EprBench.Waveform
