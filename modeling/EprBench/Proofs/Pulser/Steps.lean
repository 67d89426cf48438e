import EprBench.Proofs.Acts
import EprBench.Proofs.Names
import EprBench.Proofs.Pulser.Prepared

/-! What the calls do that move pulses without playing them. -/
namespace EprBench.Pulser

open List Outcome

def hasWindow (ps : List Pulse) : Bool := ps.any fun q => isWindowed q.channel

lemma hasWindow_append (ps qs : List Pulse) : hasWindow (ps ++ qs) = (hasWindow ps || hasWindow qs) := any_append

def Pulse.tag (q : Pulse) : Value × Value × Value := (q.name, q.channel, q.phases)

lemma hasWindow_congr {ps qs : List Pulse} (same : ps.map Pulse.tag = qs.map Pulse.tag) : hasWindow ps = hasWindow qs := by
  have mapped (l : List Pulse) : hasWindow l = (l.map Pulse.tag).any fun t => isWindowed t.2.1 := by
    rw [any_map]
    rfl
  rw [mapped, mapped, same]

lemma map_set_same {α : Type} (f : Pulse → α) {ps : List Pulse} {i : Nat} {r : Pulse}
    (here : (ps.map f)[i]? = some (f r)) : (ps.set i r).map f = ps.map f := by
  obtain ⟨inside, same⟩ := List.getElem?_eq_some_iff.mp here
  rw [map_set, ← same, set_getElem_self]

namespace Device

def marked (p : Device) : Bool := p.waiting || p.rated

def fixed (p : Device) : Device :=
  { p with pulses := [], rate := .nothing, shifted := false, rated := false, incremented := false, settled := false,
           phaseIndex := 0, phasePulses := 0, updates := none }

structure Keeps (p p' : Device) : Prop where
  frame : p'.fixed = p.fixed
  windows : hasWindow p.declared = hasWindow p.pulses → hasWindow p'.pulses = hasWindow p.pulses
  marks : p.marked = true → p'.marked = true

def Noticed (p p' : Device) : Prop := p'.marked = true ∨ p'.pulses = p.pulses ∧ p'.rate = p.rate

lemma Keeps.declared {p p' : Device} (keeps : Keeps p p') : p'.declared = p.declared := by
  show p'.fixed.declared = p.fixed.declared
  rw [keeps.frame]

abbrev ledger (p : Device) : List Pulse × List Value × Nat := (p.declared, p.names, p.phasePulses)

structure Follows (p p' : Device) : Prop where
  ledger : p'.ledger = p.ledger
  tags : p'.pulses.map Pulse.tag = p.pulses.map Pulse.tag ∨ p'.pulses.map Pulse.tag = p.declared.map Pulse.tag

variable {p p' p'' : Device}

lemma Follows.declared (follows : Follows p p') : p'.declared = p.declared := congrArg Prod.fst follows.ledger

lemma Follows.names (follows : Follows p p') : p'.names = p.names := congrArg (·.2.1) follows.ledger

lemma Follows.phasePulses (follows : Follows p p') : p'.phasePulses = p.phasePulses := congrArg (·.2.2) follows.ledger

lemma Follows.refl (p : Device) : Follows p p := ⟨rfl, Or.inl rfl⟩

lemma Follows.trans (first : Follows p p') (second : Follows p' p'') : Follows p p'' := by
  refine ⟨second.ledger.trans first.ledger, ?_⟩
  rcases second.tags with moved | back
  · exact first.tags.imp moved.trans moved.trans
  · exact .inr (first.declared ▸ back)

lemma Follows.windows (follows : Follows p p') (same : hasWindow p.declared = hasWindow p.pulses) :
    hasWindow p'.pulses = hasWindow p.pulses := by
  rcases follows.tags with moved | back
  · exact hasWindow_congr moved
  · exact (hasWindow_congr back).trans same

structure Steps (p p' : Device) : Prop extends Follows p p' where
  frame : p'.fixed = p.fixed
  marks : p.marked = true → p'.marked = true
  noticed : Noticed p p'

lemma Steps.keeps (steps : Steps p p') : Keeps p p' := ⟨steps.frame, steps.windows, steps.marks⟩

lemma Steps.refl (p : Device) : Steps p p := ⟨Follows.refl p, rfl, id, Or.inr ⟨rfl, rfl⟩⟩

lemma Steps.of_marked (frame : p'.fixed = p.fixed) (counted : p'.phasePulses = p.phasePulses)
    (tags : p'.pulses.map Pulse.tag = p.pulses.map Pulse.tag ∨ p'.pulses.map Pulse.tag = p.declared.map Pulse.tag)
    (mark : p'.marked = true) : Steps p p' := by
  have books : (p'.declared, p'.names) = (p.declared, p.names) := congrArg (fun q => (q.declared, q.names)) frame
  obtain ⟨declared, names⟩ := Prod.mk.inj books
  exact ⟨⟨by rw [ledger, declared, names, counted, ledger], tags⟩, frame, fun _ => mark, Or.inl mark⟩

lemma Steps.trans (first : Steps p p') (second : Steps p' p'') : Steps p p'' := by
  refine ⟨first.toFollows.trans second.toFollows, second.frame.trans first.frame, fun mark => second.marks (first.marks mark), ?_⟩
  rcases second.noticed with mark | ⟨pulses, rate⟩
  · exact .inl mark
  · rcases first.noticed with mark | ⟨pulses', rate'⟩
    · exact .inl (second.marks mark)
    · exact .inr ⟨pulses.trans pulses', rate.trans rate'⟩

/-! ### Declaring -/

def phaseCount (q : Pulse) : Outcome (List Nat) := do
  if ← q.channel.equals "MW" then return [(← q.phases.items).length] else return []

def holdingAlso (p : Device) (q : Pulse) (phases : List Nat) : Device :=
  { p with pulses := p.pulses ++ [q], declared := p.pulses ++ [q], names := p.names ++ [q.name],
           phaseLengths := p.phaseLengths ++ phases }

lemma ends_notePhases {q : Pulse} (microwave : q.channel.equals "MW" = .ok true) (p : Device) :
    Ends (fun _ s => ∃ n, phaseCount q = .ok n ∧ s = { p with phaseLengths := p.phaseLengths ++ n }) (notePhases q) p := by
  refine .lift_bind fun phases items => .modify ⟨[phases.length], ?_, rfl⟩
  rw [phaseCount, microwave, ok_bind, if_pos rfl, items]
  rfl

lemma phaseCount_other {q : Pulse} (other : q.channel.equals "MW" = .ok false) : phaseCount q = .ok [] := by
  rw [phaseCount, other]
  rfl

lemma ends_takePhases (q : Pulse) (p : Device) :
    Ends (fun _ s => ∃ n, phaseCount q = .ok n ∧ s = { p with phaseLengths := p.phaseLengths ++ n }) (takePhases q) p := by
  have none (other : q.channel.equals "MW" = .ok false) :
      ∃ n, phaseCount q = .ok n ∧ p = { p with phaseLengths := p.phaseLengths ++ n } :=
    ⟨[], phaseCount_other other, by rw [append_nil]⟩
  refine .lift_bind fun microwave here => ?_
  cases microwave with
  | true => exact ends_notePhases here p
  | false =>
    refine .lift_bind fun trigger _ => ?_
    split
    · exact .lift_bind fun _ _ => .lift fun _ _ => none here
    · exact .pure (none here)

lemma ends_addPulse (q : Pulse) (p : Device) :
    Ends (fun _ s => ∃ n, phaseCount q = .ok n ∧ s = p.holdingAlso q n) (addPulse q) p := by
  refine .get_bind ?_
  cases p.mode with
  | live =>
    refine (Ends.modify (Q := fun _ s => s = { p with pulses := p.pulses ++ [q], declared := p.pulses ++ [q] }) rfl).bind ?_
    rintro _ _ rfl
    refine (Ends.modify (Q := fun _ s => s = p.holdingAlso q []) (by rw [holdingAlso, append_nil])).bind ?_
    rintro _ _ rfl
    refine .lift_bind fun microwave here => ?_
    cases microwave with
    | true =>
      refine (ends_notePhases here _).mono ?_
      rintro _ _ ⟨n, counted, rfl⟩
      exact ⟨n, counted, by simp [holdingAlso]⟩
    | false => exact .pure ⟨[], phaseCount_other here, rfl⟩
  | rehearsal =>
    refine (ends_takePhases q p).bind ?_
    rintro _ _ ⟨n, counted, rfl⟩
    refine .lift_bind fun _ _ => .lift_bind fun _ _ => ?_
    refine (Ends.modify (Q := fun _ s => s = { p with phaseLengths := p.phaseLengths ++ n, names := p.names ++ [q.name] })
      rfl).bind ?_
    rintro _ _ rfl
    exact .lift_bind fun _ _ => .modify ⟨n, counted, rfl⟩

/-! ### Redefining -/

lemma ends_checkName (name : Value) (p : Device) : Ends (fun _ s => s = p) (checkName name) p := by
  refine .get_bind ?_
  split
  · exact .lift_bind fun _ _ => .lift fun _ _ => rfl
  · exact .pure rfl

lemma ends_checkTime (t : Timing) (value : Value) (p : Device) : Ends (fun _ s => s = p) (checkTime t value) p := by
  refine .get_bind ?_
  split
  · exact .lift fun _ _ => rfl
  · exact .pure rfl

structure Marks (flag : Device → Device) : Prop where
  marked : ∀ p, (flag p).marked = true
  pulses : ∀ p, (flag p).pulses = p.pulses
  fixed : ∀ p, (flag p).fixed = p.fixed
  phasePulses : ∀ p, (flag p).phasePulses = p.phasePulses

lemma marks_shifted : Marks fun p => { p with shifted := true } :=
  ⟨fun p => by simp [marked, waiting], fun _ => rfl, fun _ => rfl, fun _ => rfl⟩

lemma marks_incremented : Marks fun p => { p with incremented := true } :=
  ⟨fun p => by simp [marked, waiting], fun _ => rfl, fun _ => rfl, fun _ => rfl⟩

lemma Timing.marks_note : ∀ t : Timing, Marks t.note
  | .start | .deltaStart => marks_shifted
  | .lengthIncrement => marks_incremented

variable {m : Move} {flag : Device → Device}

lemma Marks.steps {q : Device} (marks : Marks flag) (frame : q.fixed = p.fixed) (counted : q.phasePulses = p.phasePulses)
    (tags : q.pulses.map Pulse.tag = p.pulses.map Pulse.tag) : Steps p (flag q) := by
  refine Steps.of_marked ((marks.fixed q).trans frame) ((marks.phasePulses q).trans counted) (Or.inl ?_) (marks.marked q)
  rw [marks.pulses, tags]

lemma ends_redefine (t : Timing) (name value : Value) (p : Device) : Ends (fun _ => Steps p) (redefine t name value) p := by
  refine (ends_checkName name p).bind fun _ s same => ?_
  subst same
  refine .get_bind ?_
  -- The pulses that are put in place are made from those before the loop, so the tags are carried along.
  refine (Ends.forM (I := fun s' => Steps s s' ∧ s'.pulses.map Pulse.tag = s.pulses.map Pulse.tag) ?_
    ⟨Steps.refl s, rfl⟩).mono fun _ _ holds => holds.1
  rintro ⟨q, i⟩ member s' ⟨steps, tags⟩
  refine .lift_bind fun named _ => ?_
  split
  · refine (ends_checkTime t value s').bind fun _ s₁ same => ?_
    subst same
    have here : (s₁.pulses.set i (t.put q value.display)).map Pulse.tag = s₁.pulses.map Pulse.tag := by
      refine map_set_same _ ?_
      rw [tags, getElem?_map, List.mk_mem_zipIdx_iff_getElem?.mp member, Option.map_some]
      cases t <;> rfl
    refine .modify ⟨steps.trans (t.marks_note.steps rfl rfl here), ?_⟩
    rw [t.marks_note.pulses]
    exact here.trans tags
  · exact .pure ⟨steps, tags⟩

/-! ### Moving -/

end Device

lemma Move.apply_same {m : Move} {α : Type} {f : Pulse → α} (kept : ∀ q t, f (m.put q t) = f q) {mode : Mode}
    {seen seen' : Seen} {q q' : Pulse} (moved : m.apply mode seen q = .ok (q', seen')) : f q' = f q := by
  obtain ⟨text, -, moved⟩ := bind_eq_ok.mp moved
  obtain ⟨lead, -, moved⟩ := bind_eq_ok.mp moved
  split at moved
  · rw [pure_eq_ok, Prod.mk.injEq] at moved
    rw [moved.1]
  · obtain ⟨step, -, moved⟩ := bind_eq_ok.mp moved
    obtain ⟨place, -, moved⟩ := bind_eq_ok.mp moved
    split at moved
    · split at moved
      · exact absurd moved throw_bind_ne_ok
      · rw [pure_eq_ok, Prod.mk.injEq] at moved
        rw [← moved.1, kept]
    · simp at moved

lemma Move.all_same {m : Move} {α : Type} {f : Pulse → α} (kept : ∀ q t, f (m.put q t) = f q) (mode : Mode) (seen : Seen)
    (ps : List Pulse) : (m.all mode seen ps).1.map f = ps.map f := by
  induction ps generalizing seen with
  | nil => rfl
  | cons q ps ih =>
    rw [Move.all]
    rcases moved : m.apply mode seen q with e | ⟨q', seen'⟩
    · rfl
    · simp only [map_cons, Move.apply_same kept moved, ih seen']

lemma placeAmong_none {ws : List Value} {v : Value} (missing : v.placeAmong ws = .ok none) :
    ∀ w ∈ ws, w.equals v = .ok false := by
  induction ws with
  | nil => simp
  | cons w ws ih =>
    obtain ⟨here, compared, missing⟩ := bind_eq_ok.mp missing
    cases here with
    | true => simp at missing
    | false =>
      obtain ⟨place, later, missing⟩ := bind_eq_ok.mp missing
      have none : place = none := by simpa using missing
      exact forall_mem_cons.mpr ⟨compared, ih (none ▸ later)⟩

lemma placeAmong_some {ws : List Value} {v : Value} {i : Nat} (found : v.placeAmong ws = .ok (some i)) :
    ∃ w, ws[i]? = some w ∧ w.equals v = .ok true ∧ ∀ u ∈ ws.take i, u.equals v = .ok false := by
  induction ws generalizing i with
  | nil => simp [Value.placeAmong] at found
  | cons w ws ih =>
    obtain ⟨here, compared, found⟩ := bind_eq_ok.mp found
    cases here with
    | true =>
      obtain rfl : 0 = i := by simpa using found
      exact ⟨w, rfl, compared, by simp⟩
    | false =>
      obtain ⟨place, later, found⟩ := bind_eq_ok.mp found
      rw [pure_eq_ok, Option.map_eq_some_iff] at found
      obtain ⟨j, rfl, rfl⟩ := found
      obtain ⟨u, named, equal, before⟩ := ih later
      exact ⟨u, named, equal, forall_mem_cons.mpr ⟨compared, before⟩⟩

namespace Device

variable {p p' : Device} {m : Move} {flag : Device → Device}

def ChangesNamed (name : Value) (R : Nat → Pulse → Pulse → Prop) (p p' : Device) : Prop :=
  (∀ w ∈ p.names, w.equals name = .ok false) ∧ p'.pulses = p.pulses ∨
    ∃ i w q q', p.names[i]? = some w ∧ w.equals name = .ok true ∧ (∀ u ∈ p.names.take i, u.equals name = .ok false) ∧
      p.pulses[i]? = some q ∧ R i q q' ∧ p'.pulses = p.pulses.set i q'

lemma ChangesNamed.tags {name : Value} {R : Nat → Pulse → Pulse → Prop} (changes : ChangesNamed name R p p')
    (kept : ∀ i q q', R i q q' → q'.tag = q.tag) : p'.pulses.map Pulse.tag = p.pulses.map Pulse.tag := by
  rcases changes with ⟨-, same⟩ | ⟨i, w, q, q', -, -, -, here, changed, set⟩
  · rw [same]
  · rw [set]
    exact map_set_same _ (by rw [getElem?_map, here, Option.map_some, kept i q q' changed])

lemma ends_moveAll (kept : ∀ q t, (m.put q t).tag = q.tag) (marks : Marks flag) (p : Device) :
    Ends (fun _ => Steps p) (moveAll m flag) p := by
  refine .get_bind ?_
  have tags := Move.all_same kept p.mode {} p.pulses
  generalize m.all p.mode {} p.pulses = made at tags ⊢
  obtain ⟨pulses, fault⟩ := made
  refine (Ends.modify (Q := fun _ s => s = { p with pulses := pulses }) rfl).bind fun _ s same => ?_
  subst same
  cases fault with
  | some f => exact .throw f
  | none => exact .modify (marks.steps rfl rfl tags)

lemma ends_moveOne (kept : ∀ q t, (m.put q t).tag = q.tag) (marks : Marks flag) (seen : Seen) (name : Value) (p : Device) :
    Ends (fun _ p' => Steps p p' ∧ ChangesNamed name (fun _ q q' => ∃ seen', m.apply p.mode seen q = .ok (q', seen')) p p')
      (moveOne m flag seen name) p := by
  refine .get_bind (Ends.lift_bind fun place found => ?_)
  cases place with
  | none => exact .lift_bind fun _ _ => .pure ⟨Steps.refl p, Or.inl ⟨placeAmong_none found, rfl⟩⟩
  | some i =>
    obtain ⟨w, named, equal, before⟩ := placeAmong_some found
    refine .lift_bind fun q here => .lift_bind fun ⟨q', seen'⟩ moved => ?_
    have changes (p' : Device) (set : p'.pulses = p.pulses.set i q') :
        ChangesNamed name (fun _ q q' => ∃ seen', m.apply p.mode seen q = .ok (q', seen')) p p' :=
      Or.inr ⟨i, w, q, q', named, equal, before, pick_eq_ok.mp here, ⟨seen', moved⟩, set⟩
    refine .bind (Q := fun _ p' => Steps p p' ∧ p'.pulses = p.pulses.set i q')
      (Ends.modify ⟨marks.steps rfl rfl ?_, marks.pulses _⟩) fun _ p' made => .pure ⟨made.1, changes p' made.2⟩
    exact (changes _ rfl).tags fun _ _ _ ⟨_, moved⟩ => Move.apply_same kept moved

lemma ends_movePulses (kept : ∀ q t, (m.put q t).tag = q.tag) (marks : Marks flag) (names : List Value) (p : Device) :
    Ends (fun _ => Steps p) (movePulses m flag names) p := by
  rw [movePulses]
  split
  · exact ends_moveAll kept marks p
  · refine .lift_bind fun _ _ => ?_
    refine (Ends.foldlM (I := Steps p) ?_ _ _ (Steps.refl p)).bind fun _ s steps => .pure steps
    intro seen name s steps
    exact (ends_moveOne kept marks seen name s).mono fun _ _ later => steps.trans later.1

lemma ends_movePulses_named (kept : ∀ q t, (m.put q t).tag = q.tag) (marks : Marks flag) (name : Value) (p : Device) :
    Ends (fun _ => ChangesNamed name (fun _ q q' => ∃ seen, m.apply p.mode {} q = .ok (q', seen)) p)
      (movePulses m flag [name]) p := by
  refine .lift_bind fun _ _ => ?_
  refine ((ends_moveOne kept marks {} name p).bind fun _ _ changes => .pure changes).bind fun _ s changes => ?_
  exact .pure changes.2

/-! ### Going back -/

lemma unsettle_marked (p : Device) : (unsettle p).marked = true := by simp [unsettle, marked, waiting]

lemma ends_restartCount (cycle : Value) (p : Device) :
    Ends (fun _ s => ∃ u, s = { p with updates := u }) (restartCount cycle) p := by
  refine .lift_bind fun restarts _ => ?_
  split
  · exact .modify ⟨some 0, rfl⟩
  · exact .pure ⟨p.updates, rfl⟩

def Restored (declared : List Pulse) (i : Nat) (q q' : Pulse) : Prop :=
  ∃ d, declared[i]? = some d ∧ q' = { q with start := d.start, length := d.length }

lemma ends_restoreOne (name : Value) (p : Device) :
    Ends (fun _ p' => Steps p p' ∧ ChangesNamed name (Restored p.declared) p p') (restoreOne name) p := by
  refine .get_bind (Ends.lift_bind fun place found => ?_)
  cases place with
  | none => exact .pure ⟨Steps.refl p, Or.inl ⟨placeAmong_none found, rfl⟩⟩
  | some i =>
    obtain ⟨w, named, equal, before⟩ := placeAmong_some found
    refine .lift_bind fun q here => .lift_bind fun d declared => ?_
    have changes : ChangesNamed name (Restored p.declared) p
        (unsettle { p with pulses := p.pulses.set i { q with start := d.start, length := d.length } }) :=
      Or.inr ⟨i, w, q, _, named, equal, before, pick_eq_ok.mp here, ⟨d, pick_eq_ok.mp declared, rfl⟩, rfl⟩
    refine .modify ⟨Steps.of_marked rfl rfl (Or.inl (changes.tags fun _ _ _ restored => ?_)) (unsettle_marked _), changes⟩
    obtain ⟨d, -, rfl⟩ := restored
    rfl

lemma ends_restoreAll (cycle : Value) (p : Device) :
    Ends (fun _ p' => Steps p p' ∧ p'.pulses = p'.declared) (restore [] cycle) p := by
  have back (u : Option Int) : Steps p { unsettle { p with pulses := p.declared } with updates := u } :=
    Steps.of_marked rfl rfl (Or.inr rfl) (unsettle_marked _)
  refine .get_bind ((Ends.modify (Q := fun _ s => s = unsettle { p with pulses := p.declared }) rfl).bind fun _ s same => ?_)
  subst same
  split
  · refine (ends_restartCount cycle _).mono ?_
    rintro _ _ ⟨u, rfl⟩
    exact ⟨back u, rfl⟩
  · exact .pure ⟨back p.updates, rfl⟩

lemma ends_restore (names : List Value) (cycle : Value) (p : Device) :
    Ends (fun _ => Steps p) (restore names cycle) p := by
  cases names with
  | nil => exact (ends_restoreAll cycle p).mono fun _ _ back => back.1
  | cons name names =>
    refine .get_bind (Ends.lift_bind fun _ _ => .forM (fun name _ s steps => ?_) (Steps.refl p))
    exact (ends_restoreOne name s).mono fun _ _ later => steps.trans later.1

lemma ends_restore_named (name cycle : Value) (p : Device) :
    Ends (fun _ => ChangesNamed name (Restored p.declared) p) (restore [name] cycle) p := by
  refine .get_bind (Ends.lift_bind fun _ _ => ?_)
  exact (ends_restoreOne name p).bind fun _ _ changes => .pure changes.2

end Device

/-! ### Phases -/

lemma Pulse.isWindowed_of_isPhase {q : Pulse} (phase : q.isPhase = true) : isWindowed q.channel = false := by
  rcases q with ⟨name, channel, _⟩
  cases channel with
  | text t =>
    simp only [Pulse.isPhase, Value.isText, Bool.or_eq_true, beq_iff_eq] at phase
    rcases phase with rfl | rfl
    · exact (by decide : isWindowed (.text "-X") = false)
    · exact (by decide : isWindowed (.text "+Y") = false)
  | _ => rfl

lemma hasWindow_eraseP (ps : List Pulse) : hasWindow (ps.eraseP Pulse.isPhase) = hasWindow ps := by
  induction ps with
  | nil => rfl
  | cons q ps ih =>
    by_cases phase : q.isPhase = true
    · rw [eraseP_cons_of_pos phase, hasWindow, hasWindow, any_cons, Pulse.isWindowed_of_isPhase phase,
        Bool.false_or]
    · rw [eraseP_cons_of_neg phase, hasWindow, any_cons, ← hasWindow, ih]
      rfl

lemma hasWindow_dropPhases (n : Nat) (ps : List Pulse) : hasWindow (dropPhases n ps) = hasWindow ps := by
  induction n generalizing ps with
  | zero => rfl
  | succ n ih => rw [dropPhases, ih, hasWindow_eraseP]

lemma mem_of_choice {α : Type} {table : List (String × α)} {v : Value} {x : α}
    (chosen : v.choice table = .ok (some x)) : x ∈ table.map Prod.snd := by
  induction table with
  | nil => simp [Value.choice] at chosen
  | cons entry table ih =>
    obtain ⟨here, -, chosen⟩ := bind_eq_ok.mp chosen
    split at chosen
    · rw [pure_eq_ok, Option.some.injEq] at chosen
      exact mem_map.mpr ⟨entry, mem_cons_self, chosen⟩
    · exact mem_cons_of_mem _ (ih chosen)

lemma hasWindow_phasePulses {c : Config} {mode : Mode} {index : Nat} {p : Pulse} {qs : List Pulse}
    (set : phasePulses c mode index p = .ok (some qs)) : hasWindow qs = false := by
  obtain ⟨phases, -, set⟩ := bind_eq_ok.mp set
  split at set
  · simp at set
  obtain ⟨phase, -, set⟩ := bind_eq_ok.mp set
  obtain ⟨found, chosen, set⟩ := bind_eq_ok.mp set
  split at set
  · obtain ⟨_, -, set⟩ := bind_eq_ok.mp set
    simp at set
  · rw [pure_eq_ok, Option.some.injEq] at set
    rw [← set]
    rfl
  · obtain ⟨start, -, set⟩ := bind_eq_ok.mp set
    obtain ⟨length, -, set⟩ := bind_eq_ok.mp set
    rw [pure_eq_ok, Option.some.injEq] at set
    rename_i word channels name _
    have listed := mem_of_choice chosen
    have plain : ∀ e ∈ phaseChannels, ∀ channel ∈ e.2, isWindowed (.text channel) = false := by decide
    rw [← set, hasWindow, any_map, any_eq_false]
    intro channel member
    simpa [phasePulse] using plain _ (by simpa using listed) channel member
  · simp at set

/-- A step of the phase cycle adds no generator pulses, and nothing at all if no pulse has a phase to set. -/
structure PhaseStep.Plain (s : PhaseStep) : Prop where
  noWindow : hasWindow s.added = false
  untouched : s.touched = false → s.added = []

lemma PhaseStep.Plain.add {s : PhaseStep} (plain : s.Plain) (c : Config) (mode : Mode) (index : Nat) (p : Pulse) :
    (s.add c mode index p).Plain := by
  rw [PhaseStep.add]
  split
  · exact plain
  · split
    · exact ⟨plain.noWindow, plain.untouched⟩
    · rename_i qs set
      cases qs with
      | none => exact plain
      | some qs =>
        refine ⟨?_, by simp [PhaseStep.take]⟩
        rw [PhaseStep.take, hasWindow_append, plain.noWindow, hasWindow_phasePulses set]
        rfl

lemma phaseStep_plain (c : Config) (mode : Mode) (index : Nat) (ps : List Pulse) : (phaseStep c mode index ps).Plain := by
  suffices ∀ s : PhaseStep, s.Plain → (ps.foldl (PhaseStep.add c mode index) s).Plain from this {} ⟨rfl, fun _ => rfl⟩
  induction ps with
  | nil => exact fun _ plain => plain
  | cons p ps ih => exact fun s plain => ih _ (plain.add c mode index p)

namespace Device

def nextStep (p : Device) : PhaseStep := phaseStep p.config p.mode p.phaseIndex (dropPhases p.phasePulses p.pulses)

def withPhase (p : Device) : Device :=
  { p with pulses := dropPhases p.phasePulses p.pulses ++ p.nextStep.added, phasePulses := p.nextStep.added.length,
           settled := p.settled && !p.nextStep.touched, phaseIndex := p.phaseIndex + 1 }

lemma ends_takePhase (p : Device) : Ends (fun _ s => p.nextStep.fault = none ∧ s = p.withPhase) takePhase p := by
  refine .get_bind ((Ends.modify (Q := fun _ s => { s with phaseIndex := s.phaseIndex + 1 } = p.withPhase) rfl).bind ?_)
  intro _ s made
  cases fine : p.nextStep.fault with
  | some f =>
    rw [nextStep] at fine
    rw [fine]
    exact .throw f
  | none =>
    rw [nextStep] at fine
    rw [fine]
    exact .modify ⟨rfl, made⟩

lemma nextPhase_cases {p p' : Device} {b b' : Bench} (done : perform nextPhase p b = ((.ok (), p'), b')) :
    perform checkPhases p b = ((.ok (), p), b) ∧ perform takePhase p b = ((.ok (), p.withPhase), b) ∧
      p.nextStep.fault = none ∧ perform update p.withPhase b = ((.ok (), p'), b') := by
  obtain ⟨⟨⟩, p₁, b₁, checked, later⟩ := perform_bind_ok.mp done
  obtain ⟨⟨⟩, p₂, b₂, taken, updated⟩ := perform_bind_ok.mp later
  obtain ⟨rfl, rfl⟩ := (Ends.get_bind (Ends.lift fun _ _ => rfl) : Ends (fun _ s => s = p) checkPhases p) checked
  obtain ⟨rfl, fine, rfl⟩ := ends_takePhase _ taken
  exact ⟨checked, taken, fine, updated⟩

lemma keeps_withPhase (p : Device) : Keeps p p.withPhase := by
  refine ⟨rfl, fun _ => ?_, fun mark => ?_⟩
  · have plain := phaseStep_plain p.config p.mode p.phaseIndex (dropPhases p.phasePulses p.pulses)
    rw [withPhase, hasWindow_append, hasWindow_dropPhases, nextStep, plain.noWindow, Bool.or_false]
  · revert mark
    simp only [marked, waiting, withPhase]
    cases p.settled <;> cases p.nextStep.touched <;> simp

lemma noticed_withPhase {p : Device} (set : p.marked = true ∨ p.nextStep.touched = true ∨ p.phasePulses = 0) :
    Noticed p p.withPhase := by
  rcases set with mark | touched | none
  · exact .inl ((keeps_withPhase p).marks mark)
  · refine .inl ?_
    simp [marked, waiting, withPhase, touched]
  · by_cases touched : p.nextStep.touched = true
    · refine .inl ?_
      simp [marked, waiting, withPhase, touched]
    · have plain := phaseStep_plain p.config p.mode p.phaseIndex (dropPhases p.phasePulses p.pulses)
      refine .inr ⟨?_, rfl⟩
      have added : p.nextStep.added = [] := plain.untouched (Bool.eq_false_iff.mpr touched)
      rw [withPhase, added, none, append_nil]
      rfl

end Device

end EprBench.Pulser
